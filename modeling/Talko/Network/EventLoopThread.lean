import Talko.Network.EventLoopProperties

/-!
# Event loops in a thread of their own

`EventLoopThread`: the owner calls `start_loop`, which returns once `_thread_func` has
published its loop, and later `stop_loop`, which asks the loop to quit and joins the
thread. The thread publishes the loop before it calls `loop()`, and `loop()` begins with
`quit_ = false`; a request that comes in between is overwritten.
-/

set_option autoImplicit false

namespace Talko.Network

open Talko.Library

/-- Where the owner stands: before `start_loop`, waiting in it for `loop_`, behind it, in
`stop_loop` between its test of `loop_` and the call of `quit`, in `join`, or behind
`stop_loop`. -/
inductive OwnerPlace where
  | idle
  | waiting
  | started
  | quitting
  | joining
  | joined
  deriving DecidableEq, Repr

/-- Where the thread stands in `_thread_func`. -/
inductive ThreadPlace where
  | absent
  | constructing
  | initializing
  | publishing
  | looping
  | finished
  deriving DecidableEq, Repr

/-- `published` says that `loop_` is not `NULL`. -/
structure EventLoopThread (Cb : Type) where
  owner : OwnerPlace
  thread : ThreadPlace
  published : Bool
  loop : EventLoop Cb

inductive LoopThreadStep (Cb : Type) where
  | owner
  | thread
  | queueInLoop (cb : Cb)
  | runInLoop (inLoopThread : Bool) (cb : Cb)
  deriving DecidableEq, Repr

namespace EventLoopThread

variable {Cb : Type}

def new : EventLoopThread Cb where
  owner := .idle
  thread := .absent
  published := false
  loop := .new

/-- `start_loop` and then `stop_loop`. -/
def stepOwner (t : EventLoopThread Cb) : EventLoopThread Cb :=
  match t.owner with
  | .idle => { t with owner := .waiting, thread := .constructing }
  | .waiting => if t.published then { t with owner := .started } else t
  | .started => if t.published then { t with owner := .quitting } else { t with owner := .joining }
  | .quitting => { t with owner := .joining, loop := t.loop.step .quit }
  | .joining => if t.thread = .finished then { t with owner := .joined } else t
  | .joined => t

/-- `_thread_func`; `loop_` becomes `NULL` again when `loop()` has returned. -/
def threadFunc (t : EventLoopThread Cb) : EventLoopThread Cb :=
  match t.thread with
  | .absent => t
  | .constructing => { t with thread := .initializing, loop := .new }
  | .initializing => { t with thread := .publishing }
  | .publishing => { t with thread := .looping, published := true }
  | .looping =>
      if t.loop.place = .returned then { t with thread := .finished, published := false }
      else { t with loop := t.loop.advance }
  | .finished => t

def step (t : EventLoopThread Cb) : LoopThreadStep Cb → EventLoopThread Cb
  | .owner => t.stepOwner
  | .thread => t.threadFunc
  | .queueInLoop cb => { t with loop := t.loop.queueInLoop cb }
  | .runInLoop inLoopThread cb => { t with loop := t.loop.runInLoop inLoopThread cb }

end EventLoopThread

/-!
## A loop that has been asked to quit
-/

namespace EventLoop

variable {Cb : Type}

/-- The moves that a loop with `quit_` set has left. -/
def movesLeft (loop : EventLoop Cb) : Nat :=
  match loop.place with
  | .outside | .returned => 0
  | .testing => 1
  | .frame => 2
  | .executing => loop.functors.length + 3
  | .swapping => loop.pendingFunctors.length + 4
  | .handling => loop.pendingFunctors.length + 5
  | .polling => loop.pendingFunctors.length + 6
  | .timers => loop.pendingFunctors.length + 7

theorem advance_quit {loop : EventLoop Cb} (entered : loop.place ≠ .outside) :
    loop.advance.quit = loop.quit := by
  unfold advance
  cases place : loop.place with
  | outside => exact absurd place entered
  | testing =>
      dsimp only
      split
      · rfl
      · rfl
  | executing =>
      dsimp only
      unfold executeFunctor
      split
      · rfl
      · rfl
  | _ => rfl

theorem advance_movesLeft {loop : EventLoop Cb} (quits : loop.quit = true)
    (entered : loop.place ≠ .outside) (inside : loop.place ≠ .returned) :
    loop.advance.movesLeft < loop.movesLeft := by
  unfold advance
  cases place : loop.place with
  | outside => exact absurd place entered
  | returned => exact absurd place inside
  | testing => simp [quits, movesLeft, moveTo, place]
  | executing =>
      dsimp only
      unfold executeFunctor
      split
      · next finished => simp [movesLeft, moveTo, place, finished]
      · next cb rest batch => simp [movesLeft, place, batch]
  | _ => simp [movesLeft, moveTo, swapFunctors, place]

end EventLoop

namespace EventLoopThread

variable {Cb : Type}

/-- Behind `start_loop` the thread is in `loop()` or over, and it is over only when `loop()`
has returned. -/
structure Coherent (t : EventLoopThread Cb) : Prop where
  absent : t.owner = .idle → t.thread = .absent
  published : t.published = true → t.thread = .looping
  started : t.owner ≠ .idle → t.owner ≠ .waiting → t.thread = .looping ∨ t.thread = .finished
  finished : t.thread = .finished → t.loop.place = .returned

theorem new_coherent : (new : EventLoopThread Cb).Coherent := by
  refine ⟨fun _ => rfl, ?_, ?_, ?_⟩
  · intro published
    cases published
  · intro busy
    exact absurd rfl busy
  · intro finished
    cases finished

/-- The owner moves on while the thread is in `loop()` or over. -/
theorem Coherent.moveOwner {t : EventLoopThread Cb} (coherent : t.Coherent)
    (alive : t.thread = .looping ∨ t.thread = .finished) {owner : OwnerPlace}
    (busy : owner ≠ .idle) : ({ t with owner := owner }).Coherent :=
  ⟨fun idle => absurd idle busy, coherent.published, fun _ _ => alive, coherent.finished⟩

theorem Coherent.changeLoop {t : EventLoopThread Cb} (coherent : t.Coherent) {loop : EventLoop Cb}
    (place : loop.place = t.loop.place) : ({ t with loop := loop }).Coherent :=
  ⟨coherent.absent, coherent.published, coherent.started,
    fun finished => place.trans (coherent.finished finished)⟩

theorem Coherent.stepOwner {t : EventLoopThread Cb} (coherent : t.Coherent) :
    t.stepOwner.Coherent := by
  unfold EventLoopThread.stepOwner
  cases owner : t.owner with
  | idle =>
      have absent := coherent.absent owner
      refine ⟨?_, ?_, ?_, ?_⟩
      · intro idle
        cases idle
      · intro published
        have looping := coherent.published published
        rw [absent] at looping
        cases looping
      · intro _ busy
        exact absurd rfl busy
      · intro finished
        cases finished
  | waiting =>
      dsimp only
      split
      · next published => exact coherent.moveOwner (.inl (coherent.published published)) (by decide)
      · exact coherent
  | started =>
      have alive := coherent.started (by rw [owner]; decide) (by rw [owner]; decide)
      dsimp only
      split
      · exact coherent.moveOwner alive (by decide)
      · exact coherent.moveOwner alive (by decide)
  | quitting =>
      have alive := coherent.started (by rw [owner]; decide) (by rw [owner]; decide)
      have asked : ({ t with loop := t.loop.step .quit }).Coherent := coherent.changeLoop rfl
      exact asked.moveOwner alive (by decide)
  | joining =>
      have alive := coherent.started (by rw [owner]; decide) (by rw [owner]; decide)
      dsimp only
      split
      · exact coherent.moveOwner alive (by decide)
      · exact coherent
  | joined => exact coherent

/-- Before `loop()` the owner has not got past `start_loop`. -/
theorem Coherent.early {t : EventLoopThread Cb} (coherent : t.Coherent)
    (outside : t.thread ≠ .looping) (unfinished : t.thread ≠ .finished) :
    t.owner = .idle ∨ t.owner = .waiting := by
  by_contra late
  obtain ⟨busy, past⟩ := not_or.mp late
  rcases coherent.started busy past with looping | finished
  · exact outside looping
  · exact unfinished finished

/-- The thread takes one of the steps of `_thread_func` before `loop()`. -/
theorem Coherent.prepare {t : EventLoopThread Cb} (coherent : t.Coherent)
    (present : t.thread ≠ .absent) (outside : t.thread ≠ .looping)
    (unfinished : t.thread ≠ .finished) {thread : ThreadPlace} (running : thread ≠ .finished)
    {published : Bool} (shown : published = true → thread = .looping) (loop : EventLoop Cb) :
    ({ t with thread := thread, published := published, loop := loop }).Coherent := by
  refine ⟨?_, shown, ?_, fun finished => absurd finished running⟩
  · intro idle
    exact absurd (coherent.absent idle) present
  · intro busy past
    rcases coherent.early outside unfinished with idle | waiting
    · exact absurd idle busy
    · exact absurd waiting past

theorem Coherent.threadFunc {t : EventLoopThread Cb} (coherent : t.Coherent) :
    t.threadFunc.Coherent := by
  have hidden : t.thread ≠ .looping → ∀ thread : ThreadPlace, t.published = true →
      thread = .looping :=
    fun outside thread published => absurd (coherent.published published) outside
  unfold EventLoopThread.threadFunc
  cases thread : t.thread with
  | absent => exact coherent
  | constructing =>
      have outside : t.thread ≠ .looping := by rw [thread]; decide
      exact coherent.prepare (by rw [thread]; decide) outside (by rw [thread]; decide) (by decide)
        (hidden outside _) .new
  | initializing =>
      have outside : t.thread ≠ .looping := by rw [thread]; decide
      exact coherent.prepare (by rw [thread]; decide) outside (by rw [thread]; decide) (by decide)
        (hidden outside _) t.loop
  | publishing =>
      exact coherent.prepare (by rw [thread]; decide) (by rw [thread]; decide)
        (by rw [thread]; decide) (by decide) (fun _ => rfl) t.loop
  | looping =>
      have busy : t.owner ≠ .idle := by
        intro idle
        have absent := coherent.absent idle
        rw [thread] at absent
        cases absent
      dsimp only
      split
      · next returned =>
          refine ⟨fun idle => absurd idle busy, ?_, fun _ _ => .inr rfl, fun _ => returned⟩
          intro published
          cases published
      · refine ⟨fun idle => absurd idle busy, fun _ => rfl, fun _ _ => .inl rfl, ?_⟩
        intro finished
        cases finished
  | finished => exact coherent

theorem Coherent.step {t : EventLoopThread Cb} (coherent : t.Coherent) (action : LoopThreadStep Cb) :
    (t.step action).Coherent := by
  cases action with
  | owner => exact coherent.stepOwner
  | thread => exact coherent.threadFunc
  | queueInLoop cb => exact coherent.changeLoop rfl
  | runInLoop inLoopThread cb =>
      cases inLoopThread with
      | true => exact coherent.changeLoop rfl
      | false => exact coherent.changeLoop rfl

theorem run_coherent (actions : List (LoopThreadStep Cb)) :
    (run step (new : EventLoopThread Cb) actions).Coherent :=
  run_invariant_always Coherent (fun _ action coherent => coherent.step action) new_coherent actions

/-!
## The request of `stop_loop`
-/

/-- `quit_` is set, or `loop()` has returned. -/
def QuitPending (t : EventLoopThread Cb) : Prop :=
  t.loop.quit = true ∨ t.loop.place = .returned

instance (t : EventLoopThread Cb) : Decidable t.QuitPending :=
  inferInstanceAs (Decidable (t.loop.quit = true ∨ t.loop.place = .returned))

/-- The owner waits in `join` for a thread that is going to end. -/
structure Stopping (t : EventLoopThread Cb) : Prop where
  owner : t.owner = .joining ∨ t.owner = .joined
  thread : t.thread = .looping ∨ t.thread = .finished
  entered : t.loop.place ≠ .outside
  pending : t.QuitPending

theorem Stopping.changeLoop {t : EventLoopThread Cb} (stopping : t.Stopping) {loop : EventLoop Cb}
    (place : loop.place = t.loop.place) (quit : loop.quit = t.loop.quit) :
    ({ t with loop := loop }).Stopping := by
  refine ⟨stopping.owner, stopping.thread, ?_, ?_⟩
  · rw [place]
    exact stopping.entered
  · unfold QuitPending
    rw [place, quit]
    exact stopping.pending

theorem Stopping.threadFunc {t : EventLoopThread Cb} (stopping : t.Stopping) :
    t.threadFunc.Stopping := by
  unfold EventLoopThread.threadFunc
  rcases stopping.thread with looping | finished
  · rw [looping]
    dsimp only
    split
    · exact ⟨stopping.owner, .inr rfl, stopping.entered, stopping.pending⟩
    · next inside =>
        refine ⟨stopping.owner, .inl rfl, t.loop.advance_entered, .inl ?_⟩
        rw [EventLoop.advance_quit stopping.entered]
        exact stopping.pending.resolve_right inside
  · rw [finished]
    exact stopping

theorem Stopping.stepOwner {t : EventLoopThread Cb} (stopping : t.Stopping) :
    t.stepOwner.Stopping := by
  unfold EventLoopThread.stepOwner
  rcases stopping.owner with joining | joined
  · rw [joining]
    dsimp only
    split
    · exact ⟨.inr rfl, stopping.thread, stopping.entered, stopping.pending⟩
    · exact stopping
  · rw [joined]
    exact stopping

theorem Stopping.step {t : EventLoopThread Cb} (stopping : t.Stopping) (action : LoopThreadStep Cb) :
    (t.step action).Stopping := by
  cases action with
  | owner => exact stopping.stepOwner
  | thread => exact stopping.threadFunc
  | queueInLoop cb => exact stopping.changeLoop rfl rfl
  | runInLoop inLoopThread cb =>
      cases inLoopThread with
      | true => exact stopping.changeLoop rfl rfl
      | false => exact stopping.changeLoop rfl rfl

def CanJoin (t : EventLoopThread Cb) : Prop :=
  ∃ rest : List (LoopThreadStep Cb), (run step t rest).owner = .joined

theorem CanJoin.of_step {t : EventLoopThread Cb} {action : LoopThreadStep Cb}
    (joins : (t.step action).CanJoin) : t.CanJoin := by
  obtain ⟨rest, joined⟩ := joins
  exact ⟨action :: rest, joined⟩

theorem Stopping.canJoin_of_finished {t : EventLoopThread Cb} (stopping : t.Stopping)
    (finished : t.thread = .finished) : t.CanJoin := by
  rcases stopping.owner with joining | joined
  · refine ⟨[.owner], ?_⟩
    change t.stepOwner.owner = .joined
    simp [EventLoopThread.stepOwner, joining, finished]
  · exact ⟨[], joined⟩

/-- The thread left to itself ends: each of its moves brings the loop nearer to its end. -/
theorem Stopping.canJoin {t : EventLoopThread Cb} (stopping : t.Stopping) : t.CanJoin := by
  induction left : t.loop.movesLeft using Nat.strongRecOn generalizing t with
  | _ moves ih =>
      rcases stopping.thread with looping | finished
      · by_cases returned : t.loop.place = .returned
        · refine CanJoin.of_step (?_ : (t.step .thread).CanJoin)
          apply (stopping.step .thread).canJoin_of_finished
          change t.threadFunc.thread = .finished
          simp [EventLoopThread.threadFunc, looping, returned]
        · have moved : (t.step .thread).loop = t.loop.advance := by
            change t.threadFunc.loop = t.loop.advance
            simp [EventLoopThread.threadFunc, looping, returned]
          have nearer := EventLoop.advance_movesLeft (stopping.pending.resolve_right returned)
            stopping.entered returned
          rw [← moved, left] at nearer
          exact CanJoin.of_step (ih _ nearer (stopping.step .thread) rfl)
      · exact stopping.canJoin_of_finished finished

/-- The request of `stop_loop` is kept until `loop()` returns, and the thread can be joined,
exactly when the thread has entered `loop()` by the time of the request. -/
theorem quit_kept_iff (before : List (LoopThreadStep Cb))
    (quitting : (run step (new : EventLoopThread Cb) before).owner = .quitting) :
    (∀ after : List (LoopThreadStep Cb),
        let final := run step ((run step new before).step .owner) after
        final.QuitPending ∧ final.CanJoin) ↔
      (run step (new : EventLoopThread Cb) before).loop.place ≠ .outside := by
  have coherent := run_coherent before
  revert quitting coherent
  generalize run step (new : EventLoopThread Cb) before = t
  intro quitting coherent
  have alive := coherent.started (by rw [quitting]; decide) (by rw [quitting]; decide)
  have requested : t.step .owner = { t with owner := .joining, loop := t.loop.step .quit } := by
    change t.stepOwner = _
    rw [EventLoopThread.stepOwner, quitting]
  rw [requested]
  constructor
  · intro kept outside
    have looping : t.thread = .looping := by
      rcases alive with looping | finished
      · exact looping
      · have returned := coherent.finished finished
        rw [outside] at returned
        cases returned
    have lost := (kept [.thread]).1
    simp [QuitPending, EventLoopThread.step, EventLoopThread.threadFunc, EventLoop.step,
      EventLoop.advance, looping, outside] at lost
  · intro entered after
    have stopping : ({ t with owner := .joining, loop := t.loop.step .quit }).Stopping :=
      ⟨.inl rfl, alive, entered, .inl rfl⟩
    have still := run_invariant_always Stopping (fun _ action holds => holds.step action)
      stopping after
    exact ⟨still.pending, still.canJoin⟩

private def startAndStop (loopSteps : List (LoopThreadStep Nat)) : List (LoopThreadStep Nat) :=
  [.owner, .thread, .thread, .thread, .owner] ++ loopSteps ++ [.owner]

theorem quit_inside_loop_kept :
    (run step ((run step new (startAndStop [.thread])).step .owner) [.thread]).QuitPending ∧
      (run step ((run step new (startAndStop [.thread])).step .owner) [.thread]).CanJoin :=
  (quit_kept_iff (startAndStop [.thread]) (by decide)).mpr (by decide) [.thread]

/-- `stop_loop` sets `quit_` when the loop is published but not entered; `loop()` resets it. -/
theorem quit_before_loop_lost :
    (run step new (startAndStop [])).owner = .quitting ∧
      ¬ (run step ((run step new (startAndStop [])).step .owner) [.thread]).QuitPending := by
  decide

end EventLoopThread

end Talko.Network
