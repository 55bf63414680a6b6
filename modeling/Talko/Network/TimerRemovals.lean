import Talko.Network.TimerRequestsProperties

/-!
# Which removals of a timer last

A removal takes the entry of a timer out of `timers_` and knows nothing of an `add_timer_in_loop`
that still waits. A removal that comes out of the queue has the addition before it. The loop
thread itself can remove a timer whose addition waits: the timer comes back, and is called,
unless a second removal stands behind the addition in the same vector of functors, which no pass
of `do_timer` parts.
-/

set_option autoImplicit false

namespace Talko.Network

open Talko.Library

variable {Callback : Type}

theorem TimerQueue.edit_cancel_objects {queue : TimerQueue Callback} {entry : TimerEntry}
    (inside : entry ∈ queue.timers) {timer : Timer Callback}
    (found : queue.objects entry.timer = some timer) (timerId : TimerId)
    (same : timerId.timer = entry.timer) (off : Bool) :
    (queue.edit (.cancel timerId off)).objects entry.timer =
      some { timer with canceled := off } := by
  have waits : queue.timers.any (·.timer = timerId.timer) = true :=
    List.any_eq_true.mpr ⟨entry, inside, by simp [same]⟩
  rw [TimerQueue.edit, cancelTimerInLoop, if_pos waits, same]
  simp [modifyTimer, found, Timer.cancel]

namespace TimerLoop

theorem Stands.calls_le {loop : TimerLoop Callback} (stands : loop.Stands)
    (action : TimerStep Callback) (address : TimerAddress) :
    (loop.callsOf address).length ≤ ((loop.step action).callsOf address).length := by
  obtain ⟨change, outside, same⟩ | ⟨now, same⟩ | ⟨place, moves, same⟩ |
    ⟨now, entry, timer, edits, place, found, due, same⟩ := loop.step_cases action
  · rw [same]
    exact le_rfl
  · rw [same]
    exact le_rfl
  · rw [same]
    exact le_rfl
  · have ran := stands.formed.runTimer entry.timer timer edits
    have advanced := loop.advance_advanced now entry ran
    rw [same, callsOf, callsOf, advanced.log, List.filter_append, List.length_append]
    exact Nat.le_add_right _ _

end TimerLoop

namespace SharedTimers

/-!
## A timer that stays away
-/

/-- The timer is removed for good before the next pass: each vector of functors that adds it
removes it too, and where it is in `timers_` the batch under way removes it. -/
structure Removed (shared : SharedTimers Callback) (address : TimerAddress) : Prop where
  handed : shared.HandedOut address
  batch : .addTimerInLoop address ∈ shared.loop.functors →
    ∃ request ∈ shared.loop.functors, request.removes address = true
  pending : .addTimerInLoop address ∈ shared.loop.pendingFunctors →
    ∃ request ∈ shared.loop.pendingFunctors, request.removes address = true
  listed : shared.timers.queue.Lists address →
    ∃ request ∈ shared.loop.functors, request.removes address = true

theorem HandedOut.there {shared : SharedTimers Callback} {address : TimerAddress}
    (handed : shared.HandedOut address) : shared.timers.queue.objects address ≠ none :=
  Option.isSome_iff_ne_none.mp handed.1

/-- A functor that joins the queue and is not the addition of this timer. -/
theorem Removed.queue {shared : SharedTimers Callback} {address : TimerAddress}
    (removed : shared.Removed address) {request : TimerRequest} {made : List TimerAddress}
    (different : request ≠ .addTimerInLoop address) (fewer : made.Sublist shared.made) :
    Removed { shared.queue request with made := made } address where
  handed := ⟨removed.handed.1, fun underWay => removed.handed.2 (fewer.subset underWay)⟩
  batch := removed.batch
  pending member := by
    have before := (List.mem_append.mp member).resolve_right fun last =>
      different (List.mem_singleton.mp last).symm
    obtain ⟨removal, waits, removes⟩ := removed.pending before
    exact ⟨removal, List.mem_append_left _ waits, removes⟩
  listed := removed.listed

/-- The functor that is executed may be the removal, but then no addition stands behind it. -/
theorem Removed.perform {shared : SharedTimers Callback} {address : TimerAddress}
    (removed : shared.Removed address) (sound : shared.Sound) {request : TimerRequest}
    {rest : List TimerRequest} (functors : shared.loop.functors = request :: rest)
    (tracked : .addTimerInLoop address ∈ rest ∨
      (request.perform shared.timers.queue).Lists address) :
    ∃ removal ∈ rest, removal.removes address = true := by
  have inside : request ∈ shared.requests := by
    rw [requests, functors]
    exact List.mem_cons_self
  have order := sound.order
  rw [requests, functors, List.cons_append, List.pairwise_cons] at order
  have present : ∀ added, request = .addTimerInLoop added →
      shared.timers.queue.objects added ≠ none := by
    rintro added rfl
    exact sound.there _ inside added rfl
  have lists := TimerRequest.perform_lists_iff sound.stands.formed present removed.handed.there
  have keeps : request.removes address = false := by
    by_contra removes
    obtain behind | listed := tracked
    · exact order.1 _ (List.mem_append_left _ behind) address rfl
        (TimerRequest.timer?_of_removes (eq_true_of_ne_false removes))
    · exact removes (lists.mp listed).2
  have waits : ∃ removal ∈ shared.loop.functors, removal.removes address = true := by
    obtain behind | listed := tracked
    · exact removed.batch (functors ▸ List.mem_cons_of_mem request behind)
    · obtain before | added := (lists.mp listed).1
      · exact removed.listed before
      · exact removed.batch (functors ▸ added ▸ List.mem_cons_self)
  obtain ⟨removal, member, removes⟩ := waits
  rw [functors] at member
  obtain rfl | behind := List.mem_cons.mp member
  · rw [keeps] at removes
    cases removes
  · exact ⟨removal, behind, removes⟩

theorem Change.removed {shared after : SharedTimers Callback} {address : TimerAddress}
    (change : Change shared after) (sound : shared.Sound) (removed : shared.Removed address) :
    after.Removed address := by
  obtain ⟨handed, batch, waiting, listed⟩ := removed
  have there := handed.there
  cases change with
  | @makes made callback when interval count free =>
      have different : address ≠ made := by
        rintro rfl
        exact there free.2
      refine ⟨⟨?_, ?_⟩, batch, waiting, listed⟩
      · exact Option.isSome_iff_ne_none.mpr
          (TimerQueue.newTimer_there there callback when interval count)
      · exact fun underWay => handed.2 ((List.mem_cons.mp underWay).resolve_left different)
  | @adds added underWay =>
      refine Removed.queue ⟨handed, batch, waiting, listed⟩ ?_ List.erase_sublist
      rintro ⟨⟩
      exact handed.2 underWay
  | asks plain =>
      exact Removed.queue ⟨handed, batch, waiting, listed⟩ (plain address) (List.Sublist.refl _)
  | runs action site functors pending =>
      refine ⟨⟨?_, handed.2⟩, ?_, ?_, ?_⟩
      · exact Option.isSome_iff_ne_none.mpr (sound.stands.step_there there action)
      · simpa only [functors] using batch
      · simpa only [pending] using waiting
      · intro lists
        simp only [functors]
        refine listed (by_contra fun out => ?_)
        exact TimerQueue.not_lists_iff.mpr
          (sound.stands.step_stays_out there (TimerQueue.not_lists_iff.mp out) action) lists
  | moves functors pending =>
      refine ⟨handed, ?_, ?_, ?_⟩
      · simpa only [functors] using batch
      · simpa only [pending] using waiting
      · simpa only [functors] using listed
  | swaps finished functors pending =>
      refine ⟨handed, ?_, ?_, ?_⟩
      · simpa only [functors] using waiting
      · simp only [pending, List.not_mem_nil, false_implies]
      · intro lists
        obtain ⟨removal, member, -⟩ := listed lists
        rw [finished] at member
        cases member
  | @performs request rest first outside loop functors pending =>
      have kept := Removed.perform ⟨handed, batch, waiting, listed⟩ sound first
      refine ⟨⟨?_, handed.2⟩, ?_, ?_, ?_⟩
      · exact Option.isSome_iff_ne_none.mpr (TimerRequest.perform_there request there)
      · simp only [functors]
        exact fun behind => kept (.inl behind)
      · simpa only [pending] using waiting
      · simp only [functors]
        exact fun lists => kept (.inr lists)

/-- A pass calls no timer that was removed. -/
theorem Change.callsOf {shared after : SharedTimers Callback} {address : TimerAddress}
    (change : Change shared after) (sound : shared.Sound) (removed : shared.Removed address) :
    after.timers.callsOf address = shared.timers.callsOf address := by
  cases change with
  | runs action site functors pending =>
      obtain ⟨edit, rfl⟩ | here := site
      · simp only [TimerLoop.step]
        split
        · rfl
        · rfl
      · by_contra called
        obtain ⟨-, -, -, entry, inside, same⟩ := sound.stands.active called
        obtain ⟨removal, member, -⟩ := removed.listed ⟨entry, inside, same⟩
        rw [sound.placed.batch (by rw [here]; decide)] at member
        cases member
  | makes => rfl
  | adds => rfl
  | asks => rfl
  | moves => rfl
  | swaps => rfl
  | performs => rfl

theorem Removed.silent {shared : SharedTimers Callback} {address : TimerAddress}
    (removed : shared.Removed address) (sound : shared.Sound)
    (further : List (SharedTimerStep Callback)) :
    (run step shared further).timers.callsOf address = shared.timers.callsOf address := by
  let settled : SharedTimers Callback → Prop := fun later =>
    later.Sound ∧ later.Removed address ∧
      later.timers.callsOf address = shared.timers.callsOf address
  have kept : ∀ later action, settled later → settled (later.step action) := by
    rintro later action ⟨sound', removed', calls⟩
    have change := (step_change sound'.placed action).1
    exact ⟨step_sound later action sound', change.removed sound' removed',
      (change.callsOf sound' removed').trans calls⟩
  exact (run_invariant_always settled kept ⟨sound, removed, rfl⟩ further).2.2

/-!
## A timer that comes back
-/

/-- Some run of the loop thread and the others leads to the goal. -/
def CanReach (shared : SharedTimers Callback) (goal : SharedTimers Callback → Prop) : Prop :=
  ∃ further, goal (run step shared further)

variable {shared : SharedTimers Callback} {goal : SharedTimers Callback → Prop}

theorem CanReach.here (holds : goal shared) : shared.CanReach goal := ⟨[], holds⟩

theorem CanReach.after (first : List (SharedTimerStep Callback))
    (reaches : (run step shared first).CanReach goal) : shared.CanReach goal := by
  obtain ⟨further, holds⟩ := reaches
  exact ⟨first ++ further, by rwa [run_append]⟩

theorem CanReach.of_step (action : SharedTimerStep Callback)
    (reaches : (shared.step action).CanReach goal) : shared.CanReach goal :=
  CanReach.after [action] reaches

theorem CanReach.trans {middle : SharedTimers Callback → Prop} (sound : shared.Sound)
    (reaches : shared.CanReach middle)
    (onward : ∀ later, later.Sound → middle later → later.CanReach goal) :
    shared.CanReach goal := by
  obtain ⟨first, holds⟩ := reaches
  exact CanReach.after first (onward _ (run_invariant_always Sound step_sound sound first) holds)

/-- Calls are only added. -/
theorem Change.calls_le {shared after : SharedTimers Callback} (change : Change shared after)
    (sound : shared.Sound) (address : TimerAddress) :
    (shared.timers.callsOf address).length ≤ (after.timers.callsOf address).length := by
  cases change with
  | runs action site functors pending => exact sound.stands.calls_le action address
  | makes => exact le_rfl
  | adds => exact le_rfl
  | asks => exact le_rfl
  | moves => exact le_rfl
  | swaps => exact le_rfl
  | performs => exact le_rfl

theorem CanReach.calls_le (sound : shared.Sound) (reaches : shared.CanReach goal)
    (address : TimerAddress) :
    shared.CanReach fun later => goal later ∧
      (shared.timers.callsOf address).length ≤ (later.timers.callsOf address).length := by
  obtain ⟨further, holds⟩ := reaches
  let grown : SharedTimers Callback → Prop := fun later => later.Sound ∧
    (shared.timers.callsOf address).length ≤ (later.timers.callsOf address).length
  have kept : ∀ later action, grown later → grown (later.step action) := by
    rintro later action ⟨sound', calls⟩
    have change := (step_change sound'.placed action).1
    exact ⟨step_sound later action sound', calls.trans (change.calls_le sound' address)⟩
  exact ⟨further, holds, (run_invariant_always grown kept ⟨sound, le_rfl⟩ further).2⟩

/-- A move that executes no functor. -/
theorem step_advance (elsewhere : shared.loop.place ≠ .timers)
    (quiet : shared.nextRequest = none) :
    shared.step .advance = { shared with loop := shared.loop.advance } := by
  simp only [step, advance, elsewhere, if_false, quiet]

theorem nextRequest_of_ne (elsewhere : shared.loop.place ≠ .executing) :
    shared.nextRequest = none := by
  rw [nextRequest, if_neg elsewhere]

/-- The iterations of a pass whose callbacks leave the queue alone, and the return from it. -/
theorem run_quietPass (shared : SharedTimers Callback) (iterations : Nat) :
    run step shared (List.replicate iterations (.iterate [])) =
      { shared with
        timers := run TimerLoop.step shared.timers (TimerLoop.quietPass iterations)
        loop :=
          if shared.timers.place ≠ .outside ∧
              (run TimerLoop.step shared.timers (TimerLoop.quietPass iterations)).place = .outside
          then shared.loop.advance else shared.loop } := by
  induction iterations generalizing shared with
  | zero =>
      have none : ¬ (shared.timers.place ≠ .outside ∧ shared.timers.place = .outside) :=
        fun both => both.1 both.2
      simp only [TimerLoop.quietPass, List.replicate_zero, List.map_nil, run_nil, none, if_false]
  | succ iterations ih =>
      have first : run TimerLoop.step shared.timers (TimerLoop.quietPass (iterations + 1)) =
          run TimerLoop.step (shared.timers.iterate []) (TimerLoop.quietPass iterations) := rfl
      rw [List.replicate_succ, run_cons, ih, first]
      simp only [step, iterate]
      by_cases outside : shared.timers.place = .outside
      · have rests : shared.timers.iterate [] = shared.timers :=
          TimerLoop.run_iterate_of_rests (.inl outside) [[]]
        simp only [rests, outside, ne_eq, not_true_eq_false, false_and, if_false]
      · by_cases ended : (shared.timers.iterate []).place = .outside
        · have rests : run TimerLoop.step (shared.timers.iterate [])
              (TimerLoop.quietPass iterations) = shared.timers.iterate [] :=
            TimerLoop.run_iterate_of_rests (.inl ended) _
          simp only [rests, outside, ended, ne_eq, not_true_eq_false, not_false_eq_true, and_self,
            false_and, if_false, if_true]
        · simp only [outside, ended, ne_eq, not_false_eq_true, true_and, and_false, if_false]

/-- `do_timer` returns when its callbacks leave the queue alone. -/
theorem pass_returns (sound : shared.Sound) (here : shared.loop.place = .timers)
    (whole : shared.timers.place ≠ .broken) :
    shared.CanReach fun later => later.loop.place = .polling ∧
      later.loop.pendingFunctors = shared.loop.pendingFunctors := by
  have walks : ∀ walking : SharedTimers Callback, walking.Sound → walking.loop = shared.loop →
      walking.timers.place ≠ .outside → walking.timers.place ≠ .broken →
      walking.CanReach fun later => later.loop.place = .polling ∧
        later.loop.pendingFunctors = shared.loop.pendingFunctors := by
    intro walking sound' same walks whole'
    obtain ⟨iterations, ended⟩ := sound'.stands.pass_ends whole'
    refine ⟨List.replicate iterations (.iterate []), ?_⟩
    rw [run_quietPass, if_pos ⟨walks, ended⟩, same, EventLoop.advance, here]
    exact ⟨rfl, rfl⟩
  by_cases outside : shared.timers.place = .outside
  · refine CanReach.of_step (.doTimer 0) (walks _ (step_sound shared _ sound) ?_ ?_ ?_)
    · simp only [step, here, if_true]
    · simp [step, here, TimerLoop.step, outside]
    · simp [step, here, TimerLoop.step, outside]
  · exact walks shared sound rfl outside whole

theorem step_perform (here : shared.loop.place = .executing) {request : TimerRequest}
    {rest : List TimerRequest} (functors : shared.loop.functors = request :: rest) :
    shared.step .advance =
      { shared.setQueue (request.perform shared.timers.queue) with
        loop := { shared.loop with
          functors := rest, executed := shared.loop.executed ++ [request] } } := by
  have next := nextRequest_eq_some_iff.mpr ⟨here, rest, functors⟩
  have elsewhere : shared.loop.place ≠ .timers := by
    rw [here]
    decide
  have moved : shared.loop.advance =
      { shared.loop with functors := rest, executed := shared.loop.executed ++ [request] } := by
    rw [EventLoop.advance, here]
    simp only [EventLoop.executeFunctor, functors]
  simp only [step, advance, elsewhere, if_false, next, moved]

/-- The batch under way is executed to its end, and what it adds and does not remove is in
`timers_` then. -/
theorem batch_ends (sound : shared.Sound) (here : shared.loop.place = .executing) :
    shared.CanReach fun later => later.loop.place = .frame ∧
      later.loop.pendingFunctors = shared.loop.pendingFunctors ∧
      ∀ address, shared.timers.queue.objects address ≠ none →
        shared.timers.queue.Lists address ∨ .addTimerInLoop address ∈ shared.loop.functors →
        (∀ request ∈ shared.loop.functors, request.removes address = false) →
        later.timers.queue.Lists address := by
  generalize batch : shared.loop.functors = functors
  induction functors generalizing shared with
  | nil =>
      have next : shared.nextRequest = none := by
        rw [nextRequest_of_executing here, batch, List.head?_nil]
      refine CanReach.of_step .advance (CanReach.here ?_)
      rw [step_advance (by rw [here]; decide) next, EventLoop.advance, here]
      simp only [EventLoop.executeFunctor, batch]
      refine ⟨rfl, rfl, fun address there listed _ => ?_⟩
      exact listed.resolve_right List.not_mem_nil
  | cons request rest ih =>
      have moved := step_perform here batch
      have sound' := step_sound shared .advance sound
      have present : ∀ added, request = .addTimerInLoop added →
          shared.timers.queue.objects added ≠ none := by
        rintro added rfl
        refine sound.there (.addTimerInLoop added) ?_ added rfl
        rw [requests, batch]
        exact List.mem_cons_self
      rw [moved] at sound'
      refine CanReach.of_step .advance ?_
      rw [moved]
      refine (ih sound' here rfl).trans sound' fun later _ reached => ?_
      obtain ⟨place, pending, lists⟩ := reached
      refine CanReach.here ⟨place, pending, fun address there listed keeps => ?_⟩
      obtain ⟨keepsFirst, keepsRest⟩ := List.forall_mem_cons.mp keeps
      have iff := TimerRequest.perform_lists_iff sound.stands.formed present there
      refine lists address (TimerRequest.perform_there request there) ?_ keepsRest
      obtain before | added := listed
      · exact .inl (iff.mpr ⟨.inl before, keepsFirst⟩)
      · obtain first | behind := List.mem_cons.mp added
        · exact .inl (iff.mpr ⟨.inr first.symm, keepsFirst⟩)
        · exact .inr behind

/-- A move at which the loop thread executes nothing, to the place behind it. -/
theorem CanReach.of_advance (elsewhere : shared.loop.place ≠ .timers)
    (quiet : shared.nextRequest = none)
    (reaches : CanReach { shared with loop := shared.loop.advance } goal) :
    shared.CanReach goal :=
  CanReach.of_step .advance (by rwa [step_advance elsewhere quiet])

/-- The loop comes to its next pass of `do_timer` with nothing done meanwhile. -/
theorem next_pass (sound : shared.Sound)
    (here : shared.loop.place = .testing ∨ shared.loop.place = .frame ∨
      shared.loop.place = .outside) :
    shared.CanReach fun later => later.loop.place = .timers ∧ later.timers = shared.timers ∧
      later.loop.pendingFunctors = shared.loop.pendingFunctors := by
  have tests : ∀ loop : EventLoop TimerRequest, loop.place = .testing → loop.quit = false →
      loop.pendingFunctors = shared.loop.pendingFunctors →
      CanReach { shared with loop := loop } fun later => later.loop.place = .timers ∧
        later.timers = shared.timers ∧
        later.loop.pendingFunctors = shared.loop.pendingFunctors := by
    intro loop testing goes pending
    have moved : loop.advance = loop.moveTo .timers := by
      simp only [EventLoop.advance, testing, goes, Bool.false_eq_true, if_false]
    refine CanReach.of_advance (by simp [testing]) (nextRequest_of_ne (by simp [testing])) ?_
    exact CanReach.here ⟨congrArg EventLoop.place moved, rfl,
      (congrArg EventLoop.pendingFunctors moved).trans pending⟩
  obtain ⟨goes, -⟩ := sound.placed.goesOn
  obtain testing | frame | outside := here
  · exact tests shared.loop testing goes rfl
  · have moved : shared.loop.advance = shared.loop.moveTo .testing := by
      rw [EventLoop.advance, frame]
    refine CanReach.of_advance (by simp [frame]) (nextRequest_of_ne (by simp [frame])) ?_
    rw [moved]
    exact tests _ rfl goes rfl
  · have moved : shared.loop.advance = { shared.loop with quit := false, place := .testing } := by
      rw [EventLoop.advance, outside]
    refine CanReach.of_advance (by simp [outside]) (nextRequest_of_ne (by simp [outside])) ?_
    rw [moved]
    exact tests _ rfl rfl rfl

theorem Placed.outside_pass (placed : shared.Placed) (elsewhere : shared.loop.place ≠ .timers) :
    shared.timers.place = .outside :=
  by_contra fun walking => elsewhere (placed.inPass walking)

/-- The loop comes to the swap of `do_other_tasks` with what is pending now. -/
def Swaps (shared : SharedTimers Callback) : Prop :=
  shared.CanReach fun later => later.loop.place = .swapping ∧ later.timers.place = .outside ∧
    later.loop.pendingFunctors = shared.loop.pendingFunctors

theorem Swaps.after {middle : SharedTimers Callback → Prop} (sound : shared.Sound)
    (reaches : shared.CanReach fun later => middle later ∧
      later.loop.pendingFunctors = shared.loop.pendingFunctors)
    (onward : ∀ later : SharedTimers Callback, later.Sound → middle later → later.Swaps) :
    shared.Swaps := by
  refine reaches.trans sound fun later sound' reached => ?_
  obtain ⟨holds, pending⟩ := reached
  refine (onward later sound' holds).trans sound' fun last _ reached => ?_
  obtain ⟨place, outside, same⟩ := reached
  exact CanReach.here ⟨place, outside, same.trans pending⟩

/-- A move at which the loop thread executes nothing. -/
theorem Swaps.of_advance (sound : shared.Sound) (elsewhere : shared.loop.place ≠ .timers)
    (quiet : shared.nextRequest = none) (keeps : shared.loop.place ≠ .swapping)
    (onward : ∀ later : SharedTimers Callback, later.Sound →
      later.loop.place = shared.loop.advance.place → later.Swaps) : shared.Swaps := by
  have pending : shared.loop.advance.pendingFunctors = shared.loop.pendingFunctors := by
    obtain ⟨-, _, _, -, -, pending, -⟩ | ⟨swaps, -⟩ | ⟨-, -, pending, -⟩ :=
      shared.loop.advance_cases sound.placed.batch
    · exact pending
    · exact absurd swaps keeps
    · exact pending
  have reaches : shared.CanReach fun later =>
      later.loop.place = shared.loop.advance.place ∧
        later.loop.pendingFunctors = shared.loop.pendingFunctors :=
    CanReach.of_advance elsewhere quiet (CanReach.here ⟨rfl, pending⟩)
  exact Swaps.after sound reaches onward

theorem swapping_swaps (sound : shared.Sound) (here : shared.loop.place = .swapping) :
    shared.Swaps :=
  CanReach.here ⟨here, sound.placed.outside_pass (by simp [here]), rfl⟩

theorem handling_swaps (sound : shared.Sound) (here : shared.loop.place = .handling) :
    shared.Swaps := by
  refine Swaps.of_advance sound (by simp [here]) (nextRequest_of_ne (by simp [here]))
    (by simp [here]) fun later sound' place => swapping_swaps sound' ?_
  rw [place, EventLoop.advance, here]
  rfl

theorem polling_swaps (sound : shared.Sound) (here : shared.loop.place = .polling) :
    shared.Swaps := by
  refine Swaps.of_advance sound (by simp [here]) (nextRequest_of_ne (by simp [here]))
    (by simp [here]) fun later sound' place => handling_swaps sound' ?_
  rw [place, EventLoop.advance, here]
  rfl

theorem timers_swaps (sound : shared.Sound) (here : shared.loop.place = .timers)
    (whole : shared.timers.place ≠ .broken) : shared.Swaps :=
  Swaps.after sound (pass_returns sound here whole) fun _ => polling_swaps

theorem testing_swaps (sound : shared.Sound)
    (here : shared.loop.place = .testing ∨ shared.loop.place = .frame ∨
      shared.loop.place = .outside) : shared.Swaps := by
  have outside : shared.timers.place = .outside := by
    refine sound.placed.outside_pass ?_
    obtain place | place | place := here <;> simp [place]
  refine (next_pass sound here).trans sound fun later sound' reached => ?_
  obtain ⟨place, same, pending⟩ := reached
  have whole : later.timers.place ≠ .broken := by simp [same, outside]
  refine (timers_swaps sound' place whole).trans sound' fun last _ reached => ?_
  obtain ⟨there, ended, kept⟩ := reached
  exact CanReach.here ⟨there, ended, kept.trans pending⟩

theorem Sound.swaps (sound : shared.Sound) (whole : shared.timers.place ≠ .broken) :
    shared.Swaps := by
  cases place : shared.loop.place with
  | returned => exact absurd place sound.placed.goesOn.2
  | swapping => exact swapping_swaps sound place
  | handling => exact handling_swaps sound place
  | polling => exact polling_swaps sound place
  | timers => exact timers_swaps sound place whole
  | testing => exact testing_swaps sound (.inl place)
  | frame => exact testing_swaps sound (.inr (.inl place))
  | outside => exact testing_swaps sound (.inr (.inr place))
  | executing =>
      refine (batch_ends sound place).trans sound fun later sound' reached => ?_
      obtain ⟨frame, pending, -⟩ := reached
      refine (testing_swaps sound' (.inr (.inl frame))).trans sound' ?_
      intro last _ reached
      obtain ⟨there, ended, kept⟩ := reached
      exact CanReach.here ⟨there, ended, kept.trans pending⟩

/-- A timer that is in `timers_` behind a batch is called in a next pass at the latest clock
value, once it is not cancelled. -/
theorem listed_fires (sound : shared.Sound) (here : shared.loop.place = .frame)
    {address : TimerAddress} (listed : shared.timers.queue.Lists address) :
    shared.CanReach fun later => later.timers.place = .outside ∧
      (shared.timers.callsOf address).length < (later.timers.callsOf address).length := by
  have outside := sound.placed.outside_pass (by simp [here])
  have runsEdits : shared.loop.place.callsOut = true := by
    rw [here]
    rfl
  let enable : TimerEdit Callback := .cancel ⟨address, 0⟩ false
  have enabled : shared.step (.inLoop enable) =
      shared.setQueue (shared.timers.queue.edit enable) := by
    simp only [step, runsEdits, if_true, TimerLoop.step, outside, setQueue]
  have sound' := step_sound shared (.inLoop enable) sound
  obtain ⟨entry, inside, rfl⟩ := listed
  obtain ⟨timer, found⟩ :=
    Option.isSome_iff_exists.mp (sound.stands.formed.present entry inside)
  have kept : entry ∈ (shared.timers.queue.edit enable).timers :=
    TimerQueue.edit_keeps inside rfl
  have active := TimerQueue.edit_cancel_objects inside found ⟨entry.timer, 0⟩ rfl false
  refine CanReach.of_step (.inLoop enable) ?_
  rw [enabled] at sound' ⊢
  refine (next_pass sound' (.inr (.inl here))).trans sound' fun later sound'' reached => ?_
  obtain ⟨timers, same, -⟩ := reached
  have queue : later.timers.queue = shared.timers.queue.edit enable := by rw [same]; rfl
  have rests : later.timers.place = .outside := by rw [same]; exact outside
  have log : later.timers.callsOf entry.timer = shared.timers.callsOf entry.timer := by
    rw [same]
    rfl
  obtain ⟨iterations, ended, more⟩ := sound''.stands.fires rests (queue ▸ kept)
    (queue ▸ active) rfl
  have begun : later.step (.doTimer Int64.maxValue) =
      { later with timers := later.timers.step (.doTimer Int64.maxValue) } := by
    simp only [step, timers, if_true]
  refine ⟨.doTimer Int64.maxValue :: List.replicate iterations (.iterate []), ?_⟩
  rw [run_cons, begun, run_quietPass]
  rw [TimerLoop.latePass, run_cons] at ended more
  rw [← log]
  exact ⟨ended, more⟩

/-- A timer that the batch under way adds and does not remove is called later. -/
theorem batch_fires (sound : shared.Sound) (here : shared.loop.place = .executing)
    {address : TimerAddress} (added : .addTimerInLoop address ∈ shared.loop.functors)
    (keeps : ∀ request ∈ shared.loop.functors, request.removes address = false) :
    shared.CanReach fun later => later.timers.place = .outside ∧
      (shared.timers.callsOf address).length < (later.timers.callsOf address).length := by
  have there := sound.there _ (List.mem_append_left _ added) address rfl
  have reaches := (batch_ends sound here).calls_le sound address
  refine reaches.trans sound fun later sound' reached => ?_
  obtain ⟨⟨frame, -, lists⟩, calls⟩ := reached
  have listed := lists address there (.inr added) keeps
  refine (listed_fires sound' frame listed).trans sound' fun last _ reached => ?_
  obtain ⟨ended, more⟩ := reached
  exact CanReach.here ⟨ended, calls.trans_lt more⟩

/-!
## Removals
-/

/-- One vector of functors adds the timer and does not remove it. -/
def AddRemains (shared : SharedTimers Callback) (address : TimerAddress) : Prop :=
  (.addTimerInLoop address ∈ shared.loop.functors ∧
      ∀ request ∈ shared.loop.functors, request.removes address = false) ∨
    .addTimerInLoop address ∈ shared.loop.pendingFunctors ∧
      ∀ request ∈ shared.loop.pendingFunctors, request.removes address = false

instance (shared : SharedTimers Callback) (address : TimerAddress) :
    Decidable (shared.AddRemains address) :=
  inferInstanceAs (Decidable (_ ∨ _))

/-- However a run goes on, the timer is not called again. A run that uses an `iter` whose element
was erased is not defined, and is not among these. -/
def Silent (shared : SharedTimers Callback) (address : TimerAddress) : Prop :=
  ∀ further, (run step shared further).timers.place ≠ .broken →
    (run step shared further).timers.callsOf address = shared.timers.callsOf address

theorem removed_of_not_addRemains {address : TimerAddress} (handed : shared.HandedOut address)
    (out : ¬ shared.timers.queue.Lists address) (none : ¬ shared.AddRemains address) :
    shared.Removed address := by
  have removal : ∀ requests : List TimerRequest,
      ¬ (.addTimerInLoop address ∈ requests ∧
        ∀ request ∈ requests, request.removes address = false) →
      .addTimerInLoop address ∈ requests →
      ∃ request ∈ requests, request.removes address = true := by
    intro requests not added
    by_contra kept
    refine not ⟨added, fun request member => ?_⟩
    exact eq_false_of_ne_true fun removes => kept ⟨request, member, removes⟩
  exact ⟨handed, removal _ fun batch => none (.inl batch), removal _ fun waits => none (.inr waits),
    fun listed => absurd listed out⟩

/-- A timer whose addition waits, with no removal behind it in its vector, is called later. -/
theorem AddRemains.fires {address : TimerAddress} (remains : shared.AddRemains address)
    (sound : shared.Sound) (whole : shared.timers.place ≠ .broken) :
    shared.CanReach fun later => later.timers.place = .outside ∧
      (shared.timers.callsOf address).length < (later.timers.callsOf address).length := by
  obtain ⟨added, keeps⟩ | ⟨added, keeps⟩ := remains
  · have here : shared.loop.place = .executing := by
      by_contra elsewhere
      rw [sound.placed.batch elsewhere] at added
      cases added
    exact batch_fires sound here added keeps
  · have reaches := (sound.swaps whole).calls_le sound address
    refine reaches.trans sound fun later sound' reached => ?_
    obtain ⟨⟨swapping, -, pending⟩, calls⟩ := reached
    have swapped : later.step .advance =
        { later with loop := later.loop.swapFunctors.moveTo .executing } := by
      have advanced : later.loop.advance = later.loop.swapFunctors.moveTo .executing := by
        rw [EventLoop.advance, swapping]
      rw [← advanced]
      exact later.step_advance (by simp [swapping]) (nextRequest_of_ne (by simp [swapping]))
    have sound'' := step_sound later .advance sound'
    refine CanReach.of_step .advance ?_
    rw [swapped] at sound'' ⊢
    have batch : (later.loop.swapFunctors.moveTo .executing).functors =
        shared.loop.pendingFunctors := pending
    have fires := batch_fires sound'' rfl (batch ▸ added) (batch ▸ keeps)
    refine fires.trans sound'' fun last _ reached => ?_
    obtain ⟨ended, more⟩ := reached
    exact CanReach.here ⟨ended, calls.trans_lt more⟩

/-- Where a timer that is not in `timers_` stays away. -/
theorem silent_iff {address : TimerAddress} (sound : shared.Sound)
    (whole : shared.timers.place ≠ .broken) (handed : shared.HandedOut address)
    (out : ¬ shared.timers.queue.Lists address) :
    shared.Silent address ↔ ¬ shared.AddRemains address := by
  constructor
  · intro silent remains
    obtain ⟨further, ended, more⟩ := remains.fires sound whole
    have same := silent further (by rw [ended]; exact nofun)
    exact absurd more (by rw [same]; exact lt_irrefl _)
  · intro none further _
    exact (removed_of_not_addRemains handed out none).silent sound further

/-- The step executes a removal of the timer: at once in a callback of the loop thread, or out
of the queue. -/
def Removes (shared : SharedTimers Callback) (timerId : TimerId) :
    SharedTimerStep Callback → Prop
  | .inLoop change => shared.loop.place.callsOut = true ∧ shared.HandedOut timerId.timer ∧
      change = .removeTimer timerId
  | .advance => shared.nextRequest = some (.removeTimerInLoop timerId)
  | .iterate edits => shared.HandedOut timerId.timer ∧ .removeTimer timerId ∈ edits ∧
      ∃ now entry timer, shared.timers.place = .walking now (some entry) ∧
        shared.timers.queue.objects entry.timer = some timer ∧ timer.expiration ≤ now ∧
        timer.canceled = false
  | _ => False

/-- A removal in a callback of `do_timer`. -/
theorem iterate_removes (sound : shared.Sound) {timerId : TimerId}
    {edits : List (TimerEdit Callback)} (removal : .removeTimer timerId ∈ edits)
    (handed : shared.HandedOut timerId.timer) {now : Int64} {entry : TimerEntry}
    {timer : Timer Callback} (place : shared.timers.place = .walking now (some entry))
    (found : shared.timers.queue.objects entry.timer = some timer) (due : timer.expiration ≤ now)
    (runs : timer.canceled = false) :
    ¬ (shared.timers.iterate edits).queue.Lists timerId.timer := by
  have ran := sound.stands.formed.runTimer entry.timer timer edits
  have advanced := shared.timers.advance_advanced now entry ran
  rw [← TimerLoop.step_iterate_of_due place found due edits] at advanced
  rintro ⟨listed, inside, same⟩
  have before := advanced.entries_old handed.there inside same
  have still : listed ∈ (edits.foldl TimerQueue.edit shared.timers.queue).timers := by
    have member := advanced.timers listed inside
    rw [TimerQueue.runTimer, if_neg (by simp [runs])] at member
    exact member
  have kept := (sound.stands.formed.mem_edits_iff before edits).mp still _ removal
  simp [TimerQueue.removes, same] at kept

theorem Removes.handed {timerId : TimerId} {action : SharedTimerStep Callback}
    (removes : shared.Removes timerId action) (sound : shared.Sound) :
    shared.HandedOut timerId.timer := by
  cases action with
  | inLoop change => exact removes.2.1
  | iterate edits => exact removes.1
  | advance =>
      have next : shared.nextRequest = some (.removeTimerInLoop timerId) := removes
      obtain ⟨-, rest, functors⟩ := nextRequest_eq_some_iff.mp next
      have waits : .removeTimerInLoop timerId ∈ shared.requests := by
        rw [requests, functors]
        exact List.mem_cons_self
      refine ⟨Option.isSome_iff_ne_none.mpr (sound.there _ waits _ rfl), fun underWay => ?_⟩
      exact (sound.made _ underWay).2.2 _ waits rfl
  | newTimer => exact removes.elim
  | addTimer => exact removes.elim
  | removeTimer => exact removes.elim
  | cancel => exact removes.elim
  | queueInLoop => exact removes.elim
  | doTimer => exact removes.elim

/-- What a removal leaves: no entry of the timer, and no addition of it if the removal came out
of the queue. -/
theorem Removes.spec {timerId : TimerId} {action : SharedTimerStep Callback}
    (removes : shared.Removes timerId action) (sound : shared.Sound) :
    (shared.step action).HandedOut timerId.timer ∧
      ¬ (shared.step action).timers.queue.Lists timerId.timer ∧
      (action = .advance → ¬ (shared.step action).AddRemains timerId.timer) := by
  have handed := removes.handed sound
  cases action with
  | inLoop change =>
      obtain ⟨runsEdits, -, rfl⟩ := removes
      have outside : shared.timers.place = .outside := by
        refine sound.placed.outside_pass fun here => ?_
        rw [here] at runsEdits
        cases runsEdits
      simp only [step, runsEdits, if_true, TimerLoop.step, outside]
      refine ⟨handed, TimerQueue.not_lists_iff.mpr ?_, fun queued => by cases queued⟩
      exact sound.stands.formed.edit_takes (by simp [TimerQueue.removes])
  | iterate edits =>
      obtain ⟨-, removal, now, entry, timer, place, found, due, runs⟩ := removes
      refine ⟨⟨?_, handed.2⟩, ?_, fun queued => by cases queued⟩
      · exact Option.isSome_iff_ne_none.mpr (sound.stands.step_there handed.there (.iterate edits))
      · exact iterate_removes sound removal handed place found due runs
  | advance =>
      have next : shared.nextRequest = some (.removeTimerInLoop timerId) := removes
      obtain ⟨here, rest, functors⟩ := nextRequest_eq_some_iff.mp next
      have order := sound.order
      rw [requests, functors, List.cons_append, List.pairwise_cons] at order
      have behind : .addTimerInLoop timerId.timer ∉ rest ++ shared.loop.pendingFunctors :=
        fun waits => order.1 _ waits timerId.timer rfl rfl
      rw [List.mem_append, not_or] at behind
      rw [step_perform here functors]
      refine ⟨handed, fun listed => ?_, fun _ remains => ?_⟩
      · have plain : ∀ added, TimerRequest.removeTimerInLoop timerId = .addTimerInLoop added →
            shared.timers.queue.objects added ≠ none := fun added same => by cases same
        have iff := TimerRequest.perform_lists_iff sound.stands.formed plain handed.there
        simpa [TimerRequest.removes] using (iff.mp listed).2
      · obtain ⟨added, -⟩ | ⟨added, -⟩ := remains
        · exact behind.1 added
        · exact behind.2 added
  | newTimer => exact removes.elim
  | addTimer => exact removes.elim
  | removeTimer => exact removes.elim
  | cancel => exact removes.elim
  | queueInLoop => exact removes.elim
  | doTimer => exact removes.elim

/-- In every run, a timer is not called again after a removal of it exactly when no vector of
functors adds it then without removing it; so every removal out of the queue lasts. -/
theorem removal_lasts_iff (actions : List (SharedTimerStep Callback)) (timerId : TimerId)
    (action : SharedTimerStep Callback)
    (removes : (run step new actions).Removes timerId action)
    (whole : ((run step new actions).step action).timers.place ≠ .broken) :
    let after := (run step new actions).step action
    (after.Silent timerId.timer ↔ ¬ after.AddRemains timerId.timer) ∧
      (action = .advance → after.Silent timerId.timer) := by
  intro after
  have sound := run_sound actions
  obtain ⟨handed, out, queued⟩ := removes.spec sound
  have decides := silent_iff (step_sound _ action sound) whole handed out
  exact ⟨decides, fun executes => decides.mpr (queued executes)⟩

/-- A thread adds a timer, and the loop thread removes it before the functor is executed. -/
theorem early_removal_undone :
    let requested : List (SharedTimerStep Unit) :=
      [.newTimer .rvalue 1 () 100 10 5, .addTimer 1]
    ¬ ((run step new requested).step (.inLoop (.removeTimer ⟨1, 1⟩))).Silent 1 := by
  intro requested
  have lasts := removal_lasts_iff requested ⟨1, 1⟩ (.inLoop (.removeTimer ⟨1, 1⟩))
    ⟨rfl, by decide, rfl⟩ (by decide)
  exact fun silent => lasts.1.mp silent (.inr ⟨by decide, by decide⟩)

end SharedTimers

end Talko.Network
