import Talko.Network.ConnectionHolders

/-!
# How long a connection lives

A connection on a loop of the thread pool, with the shared pointers to it and the functors that
are called for it. The test of `state_` in `send` and in `shutdown` can come any time before the
push, so it is no part of the step.
-/

set_option autoImplicit false

namespace Talko.Network

open Talko.Library

/-- `stale` tells that a functor has been called on the freed connection. -/
structure ConnLifetime extends ConnHolders where
  stale : Bool

inductive LifetimeStep where
  | advance
  | quit
  | lock
  | release
  | call (functor : ConnFunctor)
  | removeConn
  | runRemoval
  | stop
  deriving DecidableEq, Repr

namespace ConnLifetime

def accepted (place : LoopPlace) : ConnLifetime where
  toConnHolders := .accepted place [.connEstablished]
  stale := false

/-- A swap has taken `conn_destroyed` out of the queue. -/
def taken (state : ConnLifetime) : Bool :=
  .connDestroyed ∈ state.loop.executed ++ state.loop.functors

/-- The functor that the pass calls next meets the freed connection. -/
def callsFreed (state : ConnLifetime) : Bool :=
  match state.loop.place, state.loop.functors with
  | .executing, functor :: _ => !(functor.holds || state.alive)
  | _, _ => false

def advance (state : ConnLifetime) : ConnLifetime where
  toConnHolders := state.toConnHolders.advance
  stale := state.stale || state.callsFreed

/-- A `weak_ptr` gives a pointer only while the connection lives; a call needs a thread that
holds one. -/
def step (state : ConnLifetime) : LifetimeStep → ConnLifetime
  | .advance => state.advance
  | .quit => { state with toConnHolders := state.toConnHolders.quit }
  | .lock => if state.alive then { state with callers := state.callers + 1 } else state
  | .release => { state with toConnHolders := state.toConnHolders.release }
  | .call functor =>
      if state.callers = 0 ∨ functor = .connDestroyed then state
      else { state with toConnHolders := state.toConnHolders.queueInLoop functor }
  | .removeConn =>
      if state.callers = 0 then state else { state with removals := state.removals + 1 }
  | .runRemoval => { state with toConnHolders := state.toConnHolders.runRemoval }
  | .stop => { state with toConnHolders := state.toConnHolders.unmap }

/-- A functor without a pointer is pushed before the swap that takes `conn_destroyed`, or
beside a waiting functor that has one. -/
def Covered (state : ConnLifetime) : LifetimeStep → Prop
  | .call functor =>
      functor.holds = true ∨ state.callers = 0 ∨ state.taken = false ∨ state.pendingHolds = true
  | _ => True

instance (state : ConnLifetime) (action : LifetimeStep) : Decidable (state.Covered action) :=
  match action with
  | .call functor =>
      inferInstanceAs (Decidable (functor.holds = true ∨ state.callers = 0 ∨
        state.taken = false ∨ state.pendingHolds = true))
  | .advance | .quit | .lock | .release | .removeConn | .runRemoval | .stop =>
      inferInstanceAs (Decidable True)

/-!
## What keeps a connection
-/

/-- Until `conn_destroyed` is taken, the map or that functor itself keeps the connection;
afterwards no functor without a pointer waits or is left to call but beside one with a
pointer. -/
structure Kept (state : ConnLifetime) : Prop where
  mapped : state.mapped = true →
    state.taken = false ∧ .connDestroyed ∉ state.loop.pendingFunctors
  early : state.taken = false →
    state.mapped = true ∨ .connDestroyed ∈ state.loop.pendingFunctors
  pending : state.taken = true → ∀ functor ∈ state.loop.pendingFunctors,
    functor.holds = true ∨ state.pendingHolds = true
  running : state.taken = true → ∀ functor ∈ state.loop.functors,
    functor.holds = true ∨ state.batchHolds = true
  between : state.Between
  returned : state.loop.place = .returned → state.loop.quit = true
  fresh : state.stale = false

theorem Kept.alive_of_early {state : ConnLifetime} (kept : state.Kept)
    (early : state.taken = false) : state.alive = true := by
  rcases kept.early early with mapped | waits
  · exact ConnHolders.alive_of_mapped mapped
  · exact ConnHolders.alive_of_pending (ConnHolders.pendingHolds_of_mem waits rfl)

/-- Whatever the pass calls next, it does not meet a freed connection. -/
theorem Kept.alive_of_running {state : ConnLifetime} (kept : state.Kept)
    {functor : ConnFunctor} (member : functor ∈ state.loop.functors) :
    (functor.holds || state.alive) = true := by
  cases taken : state.taken with
  | false => rw [kept.alive_of_early taken, Bool.or_true]
  | true =>
      rcases kept.running taken functor member with holds | holds
      · rw [holds, Bool.true_or]
      · rw [ConnHolders.alive_of_batch holds, Bool.or_true]

theorem Kept.advance_eq {state : ConnLifetime} (kept : state.Kept) :
    state.advance = { state with toConnHolders := state.toConnHolders.advance } := by
  have alive : state.callsFreed = false := by
    unfold callsFreed
    split
    · next functor _ _ front =>
        rw [kept.alive_of_running (front ▸ List.mem_cons_self), Bool.not_true]
    · rfl
  rw [ConnLifetime.advance, alive, Bool.or_false]

/-!
## Steps
-/

/-- The counts of threads and of removals have no part in it. -/
theorem Kept.of_same {state after : ConnLifetime} (kept : state.Kept)
    (loop : after.loop = state.loop) (batch : after.batch = state.batch)
    (mapped : after.mapped = state.mapped) (stale : after.stale = state.stale) : after.Kept := by
  have taken : after.taken = state.taken := by rw [ConnLifetime.taken, loop, ← ConnLifetime.taken]
  have pendingHolds : after.pendingHolds = state.pendingHolds := by
    rw [ConnHolders.pendingHolds, loop, ← ConnHolders.pendingHolds]
  have batchHolds : after.batchHolds = state.batchHolds := by
    rw [ConnHolders.batchHolds, batch, ← ConnHolders.batchHolds]
  exact {
    mapped := by
      rw [mapped, taken, loop]
      exact kept.mapped
    early := by
      rw [mapped, taken, loop]
      exact kept.early
    pending := by
      rw [taken, pendingHolds, loop]
      exact kept.pending
    running := by
      rw [taken, batchHolds, loop]
      exact kept.running
    between := by
      rw [ConnHolders.Between, loop, batch]
      exact kept.between
    returned := by
      rw [loop]
      exact kept.returned
    fresh := stale.trans kept.fresh }

theorem Kept.quit {state : ConnLifetime} (kept : state.Kept) : (state.step .quit).Kept :=
  ⟨kept.mapped, kept.early, kept.pending, kept.running, kept.between, fun _ => rfl, kept.fresh⟩

theorem Kept.queueInLoop {state : ConnLifetime} (kept : state.Kept) {functor : ConnFunctor}
    (covered : functor.holds = true ∨ state.taken = false ∨ state.pendingHolds = true)
    (other : functor ≠ .connDestroyed) :
    Kept { state with toConnHolders := state.queueInLoop functor } where
  mapped := by
    intro mapped
    obtain ⟨early, absent⟩ := kept.mapped mapped
    refine ⟨early, fun member => ?_⟩
    rcases List.mem_append.mp member with waits | latest
    · exact absent waits
    · exact other (List.mem_singleton.mp latest).symm
  early := fun early => (kept.early early).imp_right (List.mem_append_left _)
  pending := by
    intro taken waiting member
    rw [ConnHolders.pendingHolds_queueInLoop]
    rcases List.mem_append.mp member with earlier | latest
    · rcases kept.pending taken waiting earlier with holds | holds
      · exact .inl holds
      · exact .inr (by rw [holds, Bool.true_or])
    · obtain rfl := List.mem_singleton.mp latest
      rcases covered with holds | early | holds
      · exact .inl holds
      · exact absurd (early.symm.trans taken) (by decide)
      · exact .inr (by rw [holds, Bool.true_or])
  running := kept.running
  between := kept.between
  returned := kept.returned
  fresh := kept.fresh

theorem Kept.unmap {state : ConnLifetime} (kept : state.Kept) :
    Kept { state with toConnHolders := state.toConnHolders.unmap } := by
  unfold ConnHolders.unmap
  split
  · next mapped =>
      obtain ⟨early, _⟩ := kept.mapped mapped
      exact {
        mapped := nofun
        early := fun _ => .inr (List.mem_append_right _ (List.mem_singleton.mpr rfl))
        pending := fun taken => absurd (early.symm.trans taken) (by decide)
        running := kept.running
        between := kept.between
        returned := kept.returned
        fresh := kept.fresh }
  · exact kept

/-- The loop thread swaps the queue with a new vector. -/
theorem Kept.swapped {state : ConnLifetime} (kept : state.Kept)
    (here : state.loop.place = .swapping) :
    Kept { state with toConnHolders := state.toConnHolders.swapped } := by
  have idle : state.loop.functors = [] := (kept.between (by rw [here]; decide)).1
  have before : state.taken = decide (ConnFunctor.connDestroyed ∈ state.loop.executed) := by
    rw [taken, idle, List.append_nil]
  exact {
    mapped := by
      intro mapped
      obtain ⟨early, absent⟩ := kept.mapped mapped
      rw [before, decide_eq_false_iff_not] at early
      refine ⟨?_, List.not_mem_nil⟩
      rw [taken, decide_eq_false_iff_not]
      exact fun member => (List.mem_append.mp member).elim early absent
    early := by
      intro late
      rw [taken, decide_eq_false_iff_not] at late
      obtain ⟨unexecuted, absent⟩ := not_or.mp (fun either => late (List.mem_append.mpr either))
      have early : state.taken = false := by rw [before, decide_eq_false_iff_not]; exact unexecuted
      exact .inl ((kept.early early).resolve_right absent)
    pending := fun _ _ member => absurd member List.not_mem_nil
    running := by
      intro late functor member
      rw [taken, decide_eq_true_iff] at late
      rcases List.mem_append.mp late with executed | waits
      · exact kept.pending (by rw [before, decide_eq_true_iff]; exact executed) functor member
      · exact .inr (List.any_eq_true.mpr ⟨.connDestroyed, waits, rfl⟩)
    between := fun elsewhere => absurd rfl elsewhere
    returned := nofun
    fresh := kept.fresh }

/-- It calls the next functor of the vector. -/
theorem Kept.popped {state : ConnLifetime} (kept : state.Kept)
    (here : state.loop.place = .executing) {functor : ConnFunctor} {rest : List ConnFunctor}
    (front : state.loop.functors = functor :: rest) :
    Kept { state with toConnHolders := state.toConnHolders.popped functor rest } := by
  have same : taken { state with toConnHolders := state.toConnHolders.popped functor rest } =
      state.taken := by
    rw [taken, taken, front, ConnHolders.popped, List.append_assoc, List.singleton_append]
  exact {
    mapped := by
      rw [same]
      exact kept.mapped
    early := by
      rw [same]
      exact kept.early
    pending := by
      rw [same]
      exact kept.pending
    running := by
      rw [same]
      intro late other member
      exact kept.running late other (front ▸ List.mem_cons_of_mem functor member)
    between := fun elsewhere => absurd here elsewhere
    returned := fun returned => absurd (here.symm.trans returned) (by decide)
    fresh := kept.fresh }

/-- It frees the vector. -/
theorem Kept.passEnded {state : ConnLifetime} (kept : state.Kept)
    (done : state.loop.functors = []) :
    Kept { state with toConnHolders := state.toConnHolders.passEnded } where
  mapped := kept.mapped
  early := kept.early
  pending := kept.pending
  running := fun _ _ member => absurd (done ▸ member) List.not_mem_nil
  between := fun _ => ⟨done, rfl⟩
  returned := nofun
  fresh := kept.fresh

theorem Kept.passes {state : ConnLifetime} (kept : state.Kept)
    (idle : state.loop.place ≠ .executing) {loop : EventLoop ConnFunctor}
    (passes : ConnHolders.Passes state.loop loop)
    (returned : loop.place = .returned → loop.quit = true) :
    Kept { state with loop := loop } := by
  have same : taken { state with loop := loop } = state.taken := by
    rw [taken, taken, passes.executed, passes.functors]
  exact {
    mapped := by
      rw [same, passes.pendingFunctors]
      exact kept.mapped
    early := by
      rw [same, passes.pendingFunctors]
      exact kept.early
    pending := by
      rw [same, ConnHolders.pendingHolds, passes.pendingFunctors]
      exact kept.pending
    running := by
      rw [same, passes.functors]
      exact kept.running
    between := by
      intro _
      rw [passes.functors]
      exact kept.between idle
    returned := returned
    fresh := kept.fresh }

/-- The loop returns only when it finds `quit_`. -/
theorem Kept.returns {state : ConnLifetime} (kept : state.Kept)
    (returned : state.loop.advance.place = .returned) : state.loop.advance.quit = true := by
  unfold EventLoop.advance at returned ⊢
  cases place : state.loop.place with
  | testing =>
      rw [place] at returned
      dsimp only at returned ⊢
      split
      · next stopped => exact stopped
      · next going =>
          rw [if_neg going] at returned
          cases returned
  | returned => exact kept.returned place
  | executing =>
      rw [place] at returned
      unfold EventLoop.executeFunctor at returned
      dsimp only at returned
      split at returned
      · cases returned
      · exact absurd (place.symm.trans returned) (by decide)
  | outside | timers | polling | handling | swapping | frame =>
      rw [place] at returned
      cases returned

theorem Kept.advance {state : ConnLifetime} (kept : state.Kept) : state.advance.Kept := by
  rw [kept.advance_eq]
  by_cases running : state.loop.place = .executing
  · cases front : state.loop.functors with
    | nil =>
        rw [ConnHolders.advance_end running front]
        exact kept.passEnded front
    | cons functor rest =>
        rw [ConnHolders.advance_call running front]
        exact kept.popped running front
  · by_cases here : state.loop.place = .swapping
    · rw [ConnHolders.advance_swapping here]
      exact kept.swapped here
    · obtain ⟨moved, passes⟩ := ConnHolders.advance_passes _ running here
      rw [moved]
      exact kept.passes running passes kept.returns

theorem Kept.step {state : ConnLifetime} (kept : state.Kept) (action : LifetimeStep)
    (covered : state.Covered action) : (state.step action).Kept := by
  cases action with
  | advance => exact kept.advance
  | quit => exact kept.quit
  | lock =>
      change Kept (if state.alive then _ else _)
      split
      · exact kept.of_same rfl rfl rfl rfl
      · exact kept
  | release => exact kept.of_same rfl rfl rfl rfl
  | call functor =>
      change Kept (if state.callers = 0 ∨ functor = .connDestroyed then _ else _)
      split
      · exact kept
      · next calls =>
          obtain ⟨called, other⟩ := not_or.mp calls
          refine kept.queueInLoop ?_ other
          rcases covered with holds | nobody | early | beside
          · exact .inl holds
          · exact absurd nobody called
          · exact .inr (.inl early)
          · exact .inr (.inr beside)
  | removeConn =>
      change Kept (if state.callers = 0 then _ else _)
      split
      · exact kept
      · exact kept.of_same rfl rfl rfl rfl
  | runRemoval =>
      change Kept { state with toConnHolders := state.toConnHolders.runRemoval }
      unfold ConnHolders.runRemoval
      split
      · exact kept
      · exact kept.unmap.of_same rfl rfl rfl rfl
  | stop => exact kept.unmap

/-- Some continuation calls a functor on the freed connection. -/
def Stales (state : ConnLifetime) : Prop :=
  ∃ after, Guarded step Covered state after ∧ (run step state after).stale = true

theorem Stales.of_step {state : ConnLifetime} (action : LifetimeStep)
    (covered : state.Covered action) (stales : (state.step action).Stales) : state.Stales := by
  obtain ⟨after, guarded, stale⟩ := stales
  exact ⟨action :: after, ⟨covered, guarded⟩, stale⟩

/-- Functors without a pointer wait, and neither the map nor a waiting functor keeps the
connection for them. -/
structure Abandoned (conn : ConnHolders) : Prop where
  unmapped : conn.mapped = false
  waiting : conn.loop.pendingFunctors ≠ []
  unheld : conn.pendingHolds = false
  runs : conn.loop.quit = false

/-- No thread and no removal keeps it either. -/
structure Alone (conn : ConnHolders) : Prop extends Abandoned conn where
  callers : conn.callers = 0
  removals : conn.removals = 0

theorem Alone.swapped_freed {conn : ConnHolders} (alone : Alone conn) :
    conn.swapped.alive = false := by
  have emptied : conn.swapped.pendingHolds = false := rfl
  have taken : conn.swapped.batchHolds = false := alone.unheld
  have unmapped : conn.swapped.mapped = false := alone.unmapped
  have callers : conn.swapped.callers = 0 := alone.callers
  have removals : conn.swapped.removals = 0 := alone.removals
  simp [ConnHolders.alive, emptied, taken, unmapped, callers, removals]

theorem Alone.stales_of_swapping {state : ConnLifetime} (alone : Alone state.toConnHolders)
    (here : state.loop.place = .swapping) : state.Stales := by
  obtain ⟨functor, rest, waits⟩ := List.exists_cons_of_ne_nil alone.waiting
  have unheld := alone.unheld
  have bare : functor.holds = false := by
    simp only [ConnHolders.pendingHolds, waits, List.any_cons, Bool.or_eq_false_iff] at unheld
    exact unheld.1
  refine ⟨[.advance, .advance], ⟨trivial, trivial, trivial⟩, ?_⟩
  have swapped : state.step .advance =
      { state with toConnHolders := state.toConnHolders.swapped } := by
    have calm : state.callsFreed = false := by
      unfold callsFreed
      rw [here]
    change state.advance = _
    rw [ConnLifetime.advance, ConnHolders.advance_swapping here, calm, Bool.or_false]
  have calls : callsFreed { state with toConnHolders := state.toConnHolders.swapped } = true := by
    have place : state.toConnHolders.swapped.loop.place = .executing := rfl
    have front : state.toConnHolders.swapped.loop.functors = functor :: rest := waits
    unfold callsFreed
    rw [place, front]
    dsimp only
    rw [bare, alone.swapped_freed]
    rfl
  rw [run_cons, swapped, run_cons, run_nil]
  change (_ || callsFreed { state with toConnHolders := state.toConnHolders.swapped }) = true
  rw [calls, Bool.or_true]

/-- The move of the loop thread to the next place of the loop. -/
theorem Alone.stales_of_move {state : ConnLifetime} (alone : Alone state.toConnHolders)
    {here place : LoopPlace} (stands : state.loop.place = here) (idle : here ≠ .executing)
    (unswapped : here ≠ .swapping) (moves : state.loop.advance.place = place)
    (runs : state.loop.advance.quit = false)
    (next : ∀ {after : ConnLifetime}, Alone after.toConnHolders → after.loop.place = place →
      after.Stales) : state.Stales := by
  obtain ⟨moved, passes⟩ := ConnHolders.advance_passes _ (stands ▸ idle) (stands ▸ unswapped)
  have alone' : Alone { state.toConnHolders with loop := state.loop.advance } := by
    refine ⟨⟨alone.unmapped, ?_, ?_, runs⟩, alone.callers, alone.removals⟩
    · rw [passes.pendingFunctors]
      exact alone.waiting
    · rw [ConnHolders.pendingHolds, passes.pendingFunctors]
      exact alone.unheld
  rw [← moved] at alone'
  have there : state.advance.loop.place = place := by
    change state.toConnHolders.advance.loop.place = place
    rw [moved]
    exact moves
  exact Stales.of_step .advance trivial (next alone' there)

theorem Alone.stales_of_handling {state : ConnLifetime} (alone : Alone state.toConnHolders)
    (here : state.loop.place = .handling) : state.Stales :=
  alone.stales_of_move here nofun nofun (by simp [EventLoop.advance, EventLoop.moveTo, here])
    (by simp [EventLoop.advance, EventLoop.moveTo, here, alone.runs]) Alone.stales_of_swapping

theorem Alone.stales_of_polling {state : ConnLifetime} (alone : Alone state.toConnHolders)
    (here : state.loop.place = .polling) : state.Stales :=
  alone.stales_of_move here nofun nofun (by simp [EventLoop.advance, EventLoop.moveTo, here])
    (by simp [EventLoop.advance, EventLoop.moveTo, here, alone.runs]) Alone.stales_of_handling

theorem Alone.stales_of_timers {state : ConnLifetime} (alone : Alone state.toConnHolders)
    (here : state.loop.place = .timers) : state.Stales :=
  alone.stales_of_move here nofun nofun (by simp [EventLoop.advance, EventLoop.moveTo, here])
    (by simp [EventLoop.advance, EventLoop.moveTo, here, alone.runs]) Alone.stales_of_polling

theorem Alone.stales_of_testing {state : ConnLifetime} (alone : Alone state.toConnHolders)
    (here : state.loop.place = .testing) : state.Stales :=
  alone.stales_of_move here nofun nofun
    (by simp [EventLoop.advance, EventLoop.moveTo, here, alone.runs])
    (by simp [EventLoop.advance, EventLoop.moveTo, here, alone.runs]) Alone.stales_of_timers

theorem Alone.stales_of_frame {state : ConnLifetime} (alone : Alone state.toConnHolders)
    (here : state.loop.place = .frame) : state.Stales :=
  alone.stales_of_move here nofun nofun (by simp [EventLoop.advance, EventLoop.moveTo, here])
    (by simp [EventLoop.advance, EventLoop.moveTo, here, alone.runs]) Alone.stales_of_testing

/-- The pass under way first comes to its end. -/
theorem Alone.stales_of_executing {functors : List ConnFunctor} {state : ConnLifetime}
    (alone : Alone state.toConnHolders) (batch : state.loop.functors = functors)
    (here : state.loop.place = .executing) : state.Stales := by
  induction functors generalizing state with
  | nil =>
      have moved : state.advance.toConnHolders = state.toConnHolders.passEnded :=
        ConnHolders.advance_end here batch
      have alone' : Alone state.toConnHolders.passEnded :=
        ⟨⟨alone.unmapped, alone.waiting, alone.unheld, alone.runs⟩, alone.callers, alone.removals⟩
      rw [← moved] at alone'
      have there : state.advance.loop.place = .frame := by
        rw [moved]
        rfl
      exact Stales.of_step .advance trivial (alone'.stales_of_frame there)
  | cons functor rest ih =>
      have moved : state.advance.toConnHolders = state.toConnHolders.popped functor rest :=
        ConnHolders.advance_call here batch
      have alone' : Alone (state.toConnHolders.popped functor rest) :=
        ⟨⟨alone.unmapped, alone.waiting, alone.unheld, alone.runs⟩, alone.callers, alone.removals⟩
      rw [← moved] at alone'
      have left : state.advance.loop.functors = rest := by
        rw [moved]
        rfl
      have still : state.advance.loop.place = .executing := by
        rw [moved]
        exact here
      exact Stales.of_step .advance trivial (ih alone' left still)

theorem Alone.stales {state : ConnLifetime} (alone : Alone state.toConnHolders)
    (running : state.loop.place ≠ .returned) : state.Stales := by
  cases place : state.loop.place with
  | outside =>
      exact alone.stales_of_move place nofun nofun (by simp [EventLoop.advance, place])
        (by simp [EventLoop.advance, place]) Alone.stales_of_testing
  | testing => exact alone.stales_of_testing place
  | timers => exact alone.stales_of_timers place
  | polling => exact alone.stales_of_polling place
  | handling => exact alone.stales_of_handling place
  | swapping => exact alone.stales_of_swapping place
  | executing => exact alone.stales_of_executing rfl place
  | frame => exact alone.stales_of_frame place
  | returned => exact absurd place running

/-- The removals that wait find no entry any more. -/
theorem Abandoned.stales_of_removals {count : Nat} {state : ConnLifetime}
    (abandoned : Abandoned state.toConnHolders) (running : state.loop.place ≠ .returned)
    (callers : state.callers = 0) (removals : state.removals = count) : state.Stales := by
  induction count generalizing state with
  | zero => exact Alone.stales ⟨abandoned, callers, removals⟩ running
  | succ count ih =>
      have same : state.step .runRemoval = { state with removals := count } := by
        simp [step, ConnHolders.runRemoval, ConnHolders.unmap, abandoned.unmapped, removals]
      apply Stales.of_step .runRemoval trivial
      rw [same]
      have abandoned' : Abandoned { state.toConnHolders with removals := count } :=
        ⟨abandoned.unmapped, abandoned.waiting, abandoned.unheld, abandoned.runs⟩
      exact ih abandoned' running callers rfl

theorem Abandoned.stales {count : Nat} {state : ConnLifetime}
    (abandoned : Abandoned state.toConnHolders) (running : state.loop.place ≠ .returned)
    (callers : state.callers = count) : state.Stales := by
  induction count generalizing state with
  | zero => exact abandoned.stales_of_removals running callers rfl
  | succ count ih =>
      have same : state.step .release = { state with callers := count } := by
        simp [step, ConnHolders.release, callers]
      apply Stales.of_step .release trivial
      rw [same]
      have abandoned' : Abandoned { state.toConnHolders with callers := count } :=
        ⟨abandoned.unmapped, abandoned.waiting, abandoned.unheld, abandoned.runs⟩
      exact ih abandoned' running rfl

/-!
## When a functor without a pointer is safe
-/

end ConnLifetime

end Talko.Network
