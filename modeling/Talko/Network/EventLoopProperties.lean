import Mathlib.Data.List.Induction
import Talko.Network.EventLoop

/-!
# The order of the functors of a loop

What has been executed, what is left of the batch and what is pending are one sequence, the
functors in the order in which they were queued. A pass of `do_other_tasks` executes what
was pending at its swap, however much is queued meanwhile. The loop drains its queue behind
the test of `quit_`, so what is queued behind the swap is lost when `quit` follows before
the next test.
-/

set_option autoImplicit false

namespace Talko.Network

open Talko.Library

variable {Cb : Type}

@[simp] theorem queuedFunctors_nil : queuedFunctors ([] : List (LoopStep Cb)) = [] := rfl

theorem queuedFunctors_cons (action : LoopStep Cb) (rest : List (LoopStep Cb)) :
    queuedFunctors (action :: rest) = action.queued.toList ++ queuedFunctors rest := by
  unfold queuedFunctors
  cases queued : action.queued with
  | none => simp [queued]
  | some cb => simp [queued]

theorem queuedFunctors_append (first second : List (LoopStep Cb)) :
    queuedFunctors (first ++ second) = queuedFunctors first ++ queuedFunctors second :=
  List.filterMap_append

@[simp] theorem moves_nil : moves ([] : List (LoopStep Cb)) = 0 := rfl

theorem moves_concat (first : List (LoopStep Cb)) (action : LoopStep Cb) :
    moves (first ++ [action]) = moves first + if action.isMove then 1 else 0 := by
  rw [moves, List.countP_append, List.countP_singleton]
  rfl

namespace EventLoop

/-!
## One sequence
-/

/-- The functors queued so far are those executed, those of the batch and those pending, in
this order; a batch is under way only in `do_other_tasks`. -/
structure InOrder (queued : List Cb) (loop : EventLoop Cb) : Prop where
  sequence : loop.executed ++ loop.functors ++ loop.pendingFunctors = queued
  batch : loop.place ≠ .executing → loop.functors = []

theorem new_inOrder : InOrder [] (new : EventLoop Cb) :=
  ⟨rfl, fun _ => rfl⟩

theorem InOrder.moveTo {queued : List Cb} {loop : EventLoop Cb} (ordered : InOrder queued loop)
    (finished : loop.functors = []) (place : LoopPlace) : InOrder queued (loop.moveTo place) :=
  ⟨ordered.sequence, fun _ => finished⟩

theorem InOrder.swapFunctors {queued : List Cb} {loop : EventLoop Cb}
    (ordered : InOrder queued loop) (finished : loop.functors = []) :
    InOrder queued (loop.swapFunctors.moveTo .executing) := by
  refine ⟨?_, fun elsewhere => absurd rfl elsewhere⟩
  have sequence := ordered.sequence
  rw [finished, List.append_nil] at sequence
  simpa [EventLoop.swapFunctors, EventLoop.moveTo] using sequence

theorem InOrder.executeFunctor {queued : List Cb} {loop : EventLoop Cb}
    (ordered : InOrder queued loop) (here : loop.place = .executing) :
    InOrder queued loop.executeFunctor := by
  unfold EventLoop.executeFunctor
  split
  · next finished => exact ordered.moveTo finished .frame
  · next cb rest batch =>
      refine ⟨?_, fun elsewhere => absurd here elsewhere⟩
      have sequence := ordered.sequence
      rw [batch] at sequence
      simpa using sequence

theorem InOrder.advance {queued : List Cb} {loop : EventLoop Cb}
    (ordered : InOrder queued loop) : InOrder queued loop.advance := by
  unfold EventLoop.advance
  cases place : loop.place with
  | outside => exact ⟨ordered.sequence, fun _ => ordered.batch (by rw [place]; decide)⟩
  | testing =>
      have finished := ordered.batch (by rw [place]; decide)
      dsimp only
      split
      · exact ordered.moveTo finished .returned
      · exact ordered.moveTo finished .timers
  | timers => exact ordered.moveTo (ordered.batch (by rw [place]; decide)) .polling
  | polling => exact ordered.moveTo (ordered.batch (by rw [place]; decide)) .handling
  | handling => exact ordered.moveTo (ordered.batch (by rw [place]; decide)) .swapping
  | swapping => exact ordered.swapFunctors (ordered.batch (by rw [place]; decide))
  | executing => exact ordered.executeFunctor place
  | frame => exact ordered.moveTo (ordered.batch (by rw [place]; decide)) .testing
  | returned => exact ordered

/-- A step of another kind than a move of the loop thread leaves the loop thread where it
stands and adds to the queue what it queues. -/
structure Elsewhere (loop after : EventLoop Cb) (queued : List Cb) : Prop where
  place : after.place = loop.place
  functors : after.functors = loop.functors
  executed : after.executed = loop.executed
  pending : after.pendingFunctors = loop.pendingFunctors ++ queued

theorem step_elsewhere {action : LoopStep Cb} (other : action.isMove = false)
    (loop : EventLoop Cb) : loop.Elsewhere (loop.step action) action.queued.toList := by
  cases action with
  | advance => cases other
  | queueInLoop cb => exact ⟨rfl, rfl, rfl, rfl⟩
  | runInLoop inLoopThread cb =>
      cases inLoopThread with
      | true => exact ⟨rfl, rfl, rfl, (List.append_nil _).symm⟩
      | false => exact ⟨rfl, rfl, rfl, rfl⟩
  | quit => exact ⟨rfl, rfl, rfl, (List.append_nil _).symm⟩

theorem InOrder.elsewhere {queued more : List Cb} {loop after : EventLoop Cb}
    (ordered : InOrder queued loop) (elsewhere : loop.Elsewhere after more) :
    InOrder (queued ++ more) after := by
  refine ⟨?_, ?_⟩
  · rw [elsewhere.executed, elsewhere.functors, elsewhere.pending, ← List.append_assoc,
      ordered.sequence]
  · rw [elsewhere.place, elsewhere.functors]
    exact ordered.batch

theorem InOrder.step {queued : List Cb} {loop : EventLoop Cb} (ordered : InOrder queued loop)
    (action : LoopStep Cb) : InOrder (queued ++ action.queued.toList) (loop.step action) := by
  cases move : action.isMove with
  | true =>
      cases action with
      | advance =>
          change InOrder (queued ++ []) loop.advance
          rw [List.append_nil]
          exact ordered.advance
      | _ => cases move
  | false => exact ordered.elsewhere (step_elsewhere move loop)

theorem InOrder.run {queued : List Cb} {loop : EventLoop Cb} (ordered : InOrder queued loop)
    (actions : List (LoopStep Cb)) :
    InOrder (queued ++ queuedFunctors actions) (Library.run EventLoop.step loop actions) := by
  induction actions generalizing queued loop with
  | nil => simpa using ordered
  | cons action rest ih =>
      rw [run_cons, queuedFunctors_cons, ← List.append_assoc]
      exact ih (ordered.step action)

theorem run_inOrder (actions : List (LoopStep Cb)) :
    InOrder (queuedFunctors actions) (Library.run step new actions) :=
  new_inOrder.run actions

/-!
## Passes
-/

/-- A pass under way: the batch is executed from its start, and what is queued meanwhile
waits. -/
structure InPass (loop : EventLoop Cb) (count : Nat) (queued : List Cb)
    (after : EventLoop Cb) : Prop where
  place : after.place = if count ≤ loop.functors.length then .executing else .frame
  functors : after.functors = loop.functors.drop count
  executed : after.executed = loop.executed ++ loop.functors.take count
  pending : after.pendingFunctors = loop.pendingFunctors ++ queued

theorem inPass_start {loop : EventLoop Cb} (here : loop.place = .executing) :
    loop.InPass 0 [] loop where
  place := by simpa using here
  functors := rfl
  executed := by simp
  pending := by simp

theorem InPass.elsewhere {loop middle after : EventLoop Cb} {count : Nat}
    {queued more : List Cb} (pass : loop.InPass count queued middle)
    (elsewhere : middle.Elsewhere after more) : loop.InPass count (queued ++ more) after where
  place := elsewhere.place.trans pass.place
  functors := elsewhere.functors.trans pass.functors
  executed := elsewhere.executed.trans pass.executed
  pending := by rw [elsewhere.pending, pass.pending, List.append_assoc]

theorem InPass.advance {loop after : EventLoop Cb} {count : Nat} {queued : List Cb}
    (pass : loop.InPass count queued after) (within : count ≤ loop.functors.length) :
    loop.InPass (count + 1) queued after.advance := by
  have here : after.place = .executing := by rw [pass.place, if_pos within]
  have moved : after.advance = after.executeFunctor := by rw [EventLoop.advance, here]
  rw [moved]
  rcases Nat.lt_or_eq_of_le within with inside | last
  · have batch : after.functors = loop.functors[count] :: loop.functors.drop (count + 1) := by
      rw [pass.functors]
      exact List.drop_eq_getElem_cons inside
    unfold EventLoop.executeFunctor
    rw [batch]
    refine ⟨?_, rfl, ?_, pass.pending⟩
    · rw [if_pos (Nat.succ_le_of_lt inside)]
      exact here
    · change after.executed ++ [loop.functors[count]] = _
      rw [pass.executed, List.append_assoc, List.take_append_getElem inside]
  · have finished : after.functors = [] := by
      rw [pass.functors]
      exact List.drop_eq_nil_of_le (by omega)
    unfold EventLoop.executeFunctor
    rw [finished]
    refine ⟨?_, ?_, ?_, pass.pending⟩
    · rw [if_neg (by omega)]
      rfl
    · change after.functors = _
      rw [finished, List.drop_eq_nil_of_le (by omega)]
    · change after.executed = _
      rw [pass.executed, List.take_of_length_le (by omega), List.take_of_length_le (by omega)]

/-- A pass whose batch has `n` functors is over with the move `n + 1` of the loop thread,
whatever the other threads and the functors queue. -/
theorem run_inPass {loop : EventLoop Cb} (here : loop.place = .executing)
    (actions : List (LoopStep Cb)) (within : moves actions ≤ loop.functors.length + 1) :
    loop.InPass (moves actions) (queuedFunctors actions) (Library.run step loop actions) := by
  induction actions using List.reverseRecOn with
  | nil => exact inPass_start here
  | append_singleton first action ih =>
      rw [moves_concat] at within ⊢
      have pass := ih (by omega)
      rw [run_append, queuedFunctors_append, queuedFunctors_cons, queuedFunctors_nil,
        List.append_nil]
      cases move : action.isMove with
      | true =>
          rw [if_pos rfl]
          rw [move, if_pos rfl] at within
          cases action with
          | advance =>
              change loop.InPass _ (queuedFunctors first ++ []) (Library.run step loop first).advance
              rw [List.append_nil]
              exact pass.advance (by omega)
          | _ => cases move
      | false => exact pass.elsewhere (step_elsewhere move _)

/-- Whatever is queued at whatever time, the functors are executed in the order in which they
were queued, and a pass executes those that were pending at its swap and then ends. -/
theorem functors_in_order (before : List (LoopStep Cb)) :
    let loop := Library.run step new before
    loop.executed ++ loop.functors ++ loop.pendingFunctors = queuedFunctors before ∧
      (loop.place = .swapping → ∀ pass : List (LoopStep Cb),
        moves pass ≤ loop.pendingFunctors.length + 1 →
        let after := Library.run step loop (.advance :: pass)
        after.executed = loop.executed ++ loop.pendingFunctors.take (moves pass) ∧
          after.functors = loop.pendingFunctors.drop (moves pass) ∧
          after.pendingFunctors = queuedFunctors pass ∧
          after.place = if moves pass ≤ loop.pendingFunctors.length then .executing else .frame) := by
  intro loop
  refine ⟨(run_inOrder before).sequence, ?_⟩
  intro swaps pass within after
  have swapped : loop.step .advance = loop.swapFunctors.moveTo .executing := by
    change loop.advance = _
    rw [EventLoop.advance, swaps]
  have inPass : (loop.swapFunctors.moveTo .executing).InPass (moves pass) (queuedFunctors pass)
      after := by
    have passed := run_inPass (rfl : (loop.swapFunctors.moveTo .executing).place = .executing) pass within
    rw [← swapped] at passed ⊢
    exact passed
  exact ⟨inPass.executed, inPass.functors, inPass.pending, inPass.place⟩

/-!
## Leaving the loop
-/

/-- The functor at a position of the queueing order has left the queue or leaves it in this
iteration. -/
def Due (position : Nat) (loop : EventLoop Cb) : Prop :=
  position < loop.executed.length + loop.functors.length ∨ loop.place.beforeSwap = true

theorem InOrder.queued_length {queued : List Cb} {loop : EventLoop Cb}
    (ordered : InOrder queued loop) :
    queued.length =
      loop.executed.length + loop.functors.length + loop.pendingFunctors.length := by
  rw [← ordered.sequence, List.length_append, List.length_append]

theorem Due.executeFunctor {position : Nat} {loop : EventLoop Cb} (due : loop.Due position)
    (here : loop.place = .executing) : loop.executeFunctor.Due position := by
  rcases due with out | early
  · left
    unfold EventLoop.executeFunctor
    split
    · exact out
    · next cb rest batch =>
        simp only [batch, List.length_cons] at out
        simp only [List.length_append, List.length_singleton]
        omega
  · rw [here] at early
    cases early

theorem Due.advance {position : Nat} {queued : List Cb} {loop : EventLoop Cb}
    (due : loop.Due position) (ordered : InOrder queued loop)
    (present : position < queued.length) : loop.advance.Due position := by
  have out : loop.place.beforeSwap = false →
      position < loop.executed.length + loop.functors.length := by
    intro late
    exact due.resolve_right (by simp [late])
  unfold EventLoop.advance
  cases place : loop.place with
  | outside => exact .inl (out (by rw [place]; rfl))
  | testing =>
      have left := out (by rw [place]; rfl)
      dsimp only
      split
      · exact .inl left
      · exact .inl left
  | timers => exact .inr rfl
  | polling => exact .inr rfl
  | handling => exact .inr rfl
  | swapping =>
      have finished := ordered.batch (by rw [place]; decide)
      have length := ordered.queued_length
      rw [finished, List.length_nil, Nat.add_zero] at length
      left
      change position < loop.executed.length + loop.pendingFunctors.length
      omega
  | executing => exact due.executeFunctor place
  | frame => exact .inl (out (by rw [place]; rfl))
  | returned => exact due

theorem Due.step {position : Nat} {queued : List Cb} {loop : EventLoop Cb}
    (due : loop.Due position) (ordered : InOrder queued loop)
    (present : position < queued.length) (action : LoopStep Cb) :
    (loop.step action).Due position := by
  cases move : action.isMove with
  | true =>
      cases action with
      | advance => exact due.advance ordered present
      | _ => cases move
  | false =>
      have elsewhere := step_elsewhere move loop
      unfold Due
      rw [elsewhere.executed, elsewhere.functors, elsewhere.place]
      exact due

theorem Due.run {position : Nat} {queued : List Cb} {loop : EventLoop Cb}
    (due : loop.Due position) (ordered : InOrder queued loop)
    (present : position < queued.length) (actions : List (LoopStep Cb)) :
    (Library.run EventLoop.step loop actions).Due position := by
  induction actions generalizing queued loop with
  | nil => exact due
  | cons action rest ih =>
      refine ih (due.step ordered present action) (ordered.step action) ?_
      rw [List.length_append]
      omega

theorem Due.executed_of_returned {position : Nat} {queued : List Cb} {loop : EventLoop Cb}
    (due : loop.Due position) (ordered : InOrder queued loop) (returned : loop.place = .returned) :
    loop.executed[position]? = queued[position]? := by
  have finished := ordered.batch (by rw [returned]; decide)
  have within : position < loop.executed.length := by
    rcases due with out | early
    · rwa [finished, List.length_nil, Nat.add_zero] at out
    · rw [returned] at early
      cases early
  rw [← ordered.sequence, List.append_assoc, List.getElem?_append_left within]

theorem advance_entered (loop : EventLoop Cb) : loop.advance.place ≠ .outside := by
  unfold EventLoop.advance
  cases place : loop.place with
  | testing =>
      dsimp only
      split
      · simp [EventLoop.moveTo]
      · simp [EventLoop.moveTo]
  | executing =>
      dsimp only
      unfold EventLoop.executeFunctor
      split
      · simp [EventLoop.moveTo]
      · simp [place]
  | returned => simp [place]
  | _ => simp [EventLoop.moveTo]

theorem step_entered {loop : EventLoop Cb} (entered : loop.place ≠ .outside)
    (action : LoopStep Cb) : (loop.step action).place ≠ .outside := by
  cases move : action.isMove with
  | true =>
      cases action with
      | advance => exact advance_entered loop
      | _ => cases move
  | false =>
      rw [(step_elsewhere move loop).place]
      exact entered

/-- The loop thread left to itself returns with the given functors executed. -/
def Returns (loop : EventLoop Cb) (executed : List Cb) : Prop :=
  ∃ after : List (LoopStep Cb), (Library.run step loop after).place = .returned ∧
    (Library.run step loop after).executed = executed

theorem Returns.of_advance {loop : EventLoop Cb} {executed : List Cb}
    (returns : loop.advance.Returns executed) : loop.Returns executed := by
  obtain ⟨after, place, same⟩ := returns
  exact ⟨.advance :: after, place, same⟩

theorem returns_of_testing {loop : EventLoop Cb} (here : loop.place = .testing)
    (quits : loop.quit = true) : loop.Returns loop.executed := by
  have left : loop.advance = loop.moveTo .returned := by
    rw [EventLoop.advance, here]
    exact if_pos quits
  apply Returns.of_advance
  rw [left]
  exact ⟨[], rfl, rfl⟩

theorem returns_of_frame {loop : EventLoop Cb} (here : loop.place = .frame)
    (quits : loop.quit = true) : loop.Returns loop.executed := by
  have back : loop.advance = loop.moveTo .testing := by rw [EventLoop.advance, here]
  apply Returns.of_advance
  rw [back]
  exact returns_of_testing (rfl : (loop.moveTo .testing).place = .testing) quits

theorem returns_of_executing {batch : List Cb} {loop : EventLoop Cb}
    (rest : loop.functors = batch) (here : loop.place = .executing) (quits : loop.quit = true) :
    loop.Returns (loop.executed ++ batch) := by
  induction batch generalizing loop with
  | nil =>
      have moved : loop.advance = loop.moveTo .frame := by
        simp [EventLoop.advance, EventLoop.executeFunctor, here, rest]
      apply Returns.of_advance
      rw [moved, List.append_nil]
      exact returns_of_frame (rfl : (loop.moveTo .frame).place = .frame) quits
  | cons cb batch ih =>
      have moved : loop.advance =
          { loop with functors := batch, executed := loop.executed ++ [cb] } := by
        simp [EventLoop.advance, EventLoop.executeFunctor, here, rest]
      have next : loop.advance.Returns (loop.advance.executed ++ batch) := by
        apply ih
        · rw [moved]
        · rw [moved]
          exact here
        · rw [moved]
          exact quits
      apply Returns.of_advance
      rw [moved] at next ⊢
      simpa using next

theorem returns_behind_swap {queued : List Cb} {loop : EventLoop Cb}
    (ordered : InOrder queued loop) (entered : loop.place ≠ .outside) (quits : loop.quit = true)
    (late : loop.place.beforeSwap = false) : loop.Returns (loop.executed ++ loop.functors) := by
  have finished : loop.place ≠ .executing → loop.executed ++ loop.functors = loop.executed := by
    intro elsewhere
    rw [ordered.batch elsewhere, List.append_nil]
  cases place : loop.place with
  | outside => exact absurd place entered
  | testing =>
      rw [finished (by rw [place]; decide)]
      exact returns_of_testing place quits
  | executing => exact returns_of_executing rfl place quits
  | frame =>
      rw [finished (by rw [place]; decide)]
      exact returns_of_frame place quits
  | returned =>
      rw [finished (by rw [place]; decide)]
      exact ⟨[], place, rfl⟩
  | _ => simp [place, LoopPlace.beforeSwap] at late

/-- A functor that another thread queues before it calls `quit` is executed by the time the
loop returns, in every continuation, exactly when at the call of `quit` the functor has left
the queue or the loop thread stands between its test of `quit_` and the swap. -/
theorem queued_before_quit_executed_iff {cb : Cb} {call : LoopStep Cb}
    (queues : call.queued = some cb) (before between : List (LoopStep Cb))
    (running : (Library.run step new before).place ≠ .outside) :
    let position := (queuedFunctors before).length
    let atQuit := Library.run step new (before ++ call :: between)
    (∀ after : List (LoopStep Cb),
        let final := Library.run step atQuit (.quit :: after)
        final.place = .returned → final.executed[position]? = some cb) ↔
      position < atQuit.executed.length + atQuit.functors.length ∨
        atQuit.place.beforeSwap = true := by
  intro position atQuit
  have queuedAt : (queuedFunctors (before ++ call :: between))[position]? = some cb := by
    simp [queuedFunctors_append, queuedFunctors_cons, queues, position]
  have ordered : InOrder (queuedFunctors (before ++ call :: between)) atQuit :=
    run_inOrder (before ++ call :: between)
  have present : position < (queuedFunctors (before ++ call :: between)).length :=
    (List.getElem?_eq_some_iff.mp queuedAt).1
  constructor
  · intro executed
    by_contra undue
    obtain ⟨waiting, late⟩ := not_or.mp undue
    have entered : atQuit.place ≠ .outside := by
      unfold atQuit
      rw [run_append]
      exact run_invariant_always (fun loop : EventLoop Cb => loop.place ≠ .outside)
        (fun _ action entered => step_entered entered action) running (call :: between)
    obtain ⟨after, returned, same⟩ := returns_behind_swap (ordered.step .quit) entered rfl
      (Bool.eq_false_iff.mpr late)
    have found : (Library.run step (atQuit.step .quit) after).executed[position]? = some cb :=
      executed after returned
    rw [same] at found
    have within := (List.getElem?_eq_some_iff.mp found).1
    rw [List.length_append] at within
    exact waiting within
  · intro due after final returned
    have still := Due.run due ordered present (.quit :: after)
    rw [still.executed_of_returned (ordered.run (.quit :: after)) returned,
      List.getElem?_append_left present]
    exact queuedAt

theorem queued_while_polling_executed :
    (Library.run step (Library.run step new
      [.advance, .advance, .advance, .runInLoop false 7])
      [.quit, .advance, .advance, .advance, .advance, .advance, .advance, .advance]).executed[0]? =
      some 7 := by
  have executed := (queued_before_quit_executed_iff
    (rfl : (LoopStep.runInLoop false 7).queued = some 7)
    [.advance, .advance, .advance] [] (by decide)).mpr (.inr rfl)
  exact executed [.advance, .advance, .advance, .advance, .advance, .advance, .advance] rfl

private def duringPass : List (LoopStep Nat) :=
  [.advance, .advance, .advance, .advance, .advance, .advance, .queueInLoop 7, .quit,
    .advance, .advance, .advance]

/-- The loop is in `do_other_tasks`, behind its swap, when the functor is queued and `quit`
is called; it returns with the functor still pending. -/
theorem queued_during_pass_lost :
    (Library.run step new duringPass).place = .returned ∧
      (Library.run step new duringPass).executed[0]? ≠ some 7 ∧
      (Library.run step new duringPass).pendingFunctors = [7] := by
  decide

end EventLoop

end Talko.Network
