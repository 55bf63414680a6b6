import Talko.Network.TimerRequests

/-!
# What the timer requests keep

What a functor does to the queue of timers, and what holds in every run: the loop thread stands
where it may, and the functors about a timer come behind the one that adds it, for its id is
handed out when that one is queued.
-/

set_option autoImplicit false

namespace Talko.Network

open Talko.Library

variable {Callback : Type}

namespace TimerQueue

/-!
## What a functor does to the queue
-/

/-- `timers_` has an entry of the timer. -/
def Lists (queue : TimerQueue Callback) (address : TimerAddress) : Prop :=
  ∃ entry ∈ queue.timers, entry.timer = address

theorem not_lists_iff {queue : TimerQueue Callback} {address : TimerAddress} :
    ¬ queue.Lists address ↔ ∀ entry ∈ queue.timers, entry.timer ≠ address := by
  simp only [Lists, not_exists, not_and, ne_eq]

theorem mem_addTimerInLoop {queue : TimerQueue Callback} {address : TimerAddress}
    {timer : Timer Callback} (found : queue.objects address = some timer) {entry : TimerEntry} :
    entry ∈ (queue.addTimerInLoop address).timers ↔
      entry = ⟨timer.expiration, address⟩ ∨ entry ∈ queue.timers := by
  simp only [addTimerInLoop, insert, found, mem_orderedSetInsert]

@[simp] theorem addTimerInLoop_objects (queue : TimerQueue Callback) (address : TimerAddress) :
    (queue.addTimerInLoop address).objects = queue.objects := by
  unfold addTimerInLoop insert
  split
  · rfl
  · rfl

theorem WellFormed.addTimerInLoop {queue : TimerQueue Callback} (formed : queue.WellFormed)
    {address : TimerAddress} (there : queue.objects address ≠ none)
    (out : ¬ queue.Lists address) : (queue.addTimerInLoop address).WellFormed := by
  obtain ⟨timer, found⟩ := Option.ne_none_iff_exists'.mp there
  have elsewhere := not_lists_iff.mp out
  have absent : (⟨timer.expiration, address⟩ : TimerEntry) ∉ queue.timers := fun inside =>
    elsewhere _ inside rfl
  have inserted : (queue.addTimerInLoop address).timers =
      orderedSetInsert ⟨timer.expiration, address⟩ queue.timers := by
    simp only [TimerQueue.addTimerInLoop, insert, found]
  constructor
  case ascending =>
    rw [inserted]
    exact formed.ascending.insert _
  case unique =>
    rw [inserted, ((orderedSetInsert_perm absent).map _).nodup_iff, List.map_cons,
      List.nodup_cons]
    refine ⟨fun inside => ?_, formed.unique⟩
    obtain ⟨entry, member, same⟩ := List.mem_map.mp inside
    exact elsewhere entry member same
  case present =>
    intro entry inside
    rw [addTimerInLoop_objects]
    obtain rfl | inside := (mem_addTimerInLoop found).mp inside
    · simp [found]
    · exact formed.present entry inside

theorem newTimer_there {queue : TimerQueue Callback} {address other : TimerAddress}
    (there : queue.objects other ≠ none) (callback : Callback) (when interval count : Int64) :
    (queue.newTimer address callback when interval count).objects other ≠ none := by
  by_cases same : other = address
  · subst same
    simp [newTimer]
  · simpa [newTimer, same] using there

/-- `new Timer` alone, without the `insert`. -/
theorem WellFormed.makeTimer {queue : TimerQueue Callback} (formed : queue.WellFormed)
    (address : TimerAddress) (callback : Callback) (when interval count : Int64) :
    (queue.newTimer address callback when interval count).WellFormed where
  ascending := formed.ascending
  unique := formed.unique
  present := fun entry inside => by
    have there := Option.isSome_iff_ne_none.mp (formed.present entry inside)
    exact Option.isSome_iff_ne_none.mpr (newTimer_there there callback when interval count)

end TimerQueue

namespace TimerRequest

variable {queue : TimerQueue Callback} {request : TimerRequest} {address : TimerAddress}

theorem timer?_of_removes (removes : request.removes address = true) :
    request.timer? = some address := by
  cases request with
  | removeTimerInLoop timerId => simpa [TimerRequest.removes, timer?] using removes
  | addTimerInLoop other => cases removes
  | cancelTimerInLoop timerId off => cases removes
  | unrelated => cases removes

/-- A functor adds its timer, or it is as many edits of the queue as it does, one or none. -/
theorem perform_cases (queue : TimerQueue Callback) (request : TimerRequest) :
    (∃ address, request = .addTimerInLoop address) ∨
      (∀ address, request ≠ .addTimerInLoop address) ∧
        ∃ changes : List (TimerEdit Callback),
          request.perform queue = changes.foldl TimerQueue.edit queue ∧
          ∀ address, request.removes address = false ↔
            ∀ change ∈ changes, TimerQueue.removes address change = false := by
  cases request with
  | addTimerInLoop address => exact .inl ⟨address, rfl⟩
  | removeTimerInLoop timerId =>
      refine .inr ⟨nofun, [.removeTimer timerId], rfl, fun address => ?_⟩
      rw [List.forall_mem_singleton]
      exact Iff.rfl
  | cancelTimerInLoop timerId off =>
      refine .inr ⟨nofun, [.cancel timerId off], rfl, fun address => ?_⟩
      rw [List.forall_mem_singleton]
      exact Iff.rfl
  | unrelated => exact .inr ⟨nofun, [], rfl, fun _ => iff_of_true rfl nofun⟩

theorem perform_there (request : TimerRequest) (there : queue.objects address ≠ none) :
    (request.perform queue).objects address ≠ none := by
  obtain ⟨added, rfl⟩ | ⟨-, changes, same, -⟩ := perform_cases queue request
  · rw [perform, TimerQueue.addTimerInLoop_objects]
    exact there
  · rw [same]
    obtain ⟨timer, found⟩ := Option.ne_none_iff_exists'.mp there
    obtain ⟨canceled, found'⟩ := (TimerQueue.edits_frame queue changes).objects address timer found
    simp [found']

theorem perform_wellFormed (formed : queue.WellFormed)
    (fresh : ∀ address, request = .addTimerInLoop address →
      queue.objects address ≠ none ∧ ¬ queue.Lists address) :
    (request.perform queue).WellFormed := by
  obtain ⟨address, rfl⟩ | ⟨-, changes, same, -⟩ := perform_cases queue request
  · obtain ⟨there, out⟩ := fresh address rfl
    exact formed.addTimerInLoop there out
  · rw [same]
    exact formed.edits changes

theorem mem_perform_add {added : TimerAddress} (there : queue.objects added ≠ none) :
    ∃ when, ∀ entry, entry ∈ ((addTimerInLoop added).perform queue).timers ↔
      entry = ⟨when, added⟩ ∨ entry ∈ queue.timers := by
  obtain ⟨timer, found⟩ := Option.ne_none_iff_exists'.mp there
  exact ⟨timer.expiration, fun entry => TimerQueue.mem_addTimerInLoop found⟩

/-- Whether a timer that was made before is in `timers_` behind a functor. -/
theorem perform_lists_iff (formed : queue.WellFormed)
    (fresh : ∀ added, request = .addTimerInLoop added → queue.objects added ≠ none)
    (there : queue.objects address ≠ none) :
    (request.perform queue).Lists address ↔
      (queue.Lists address ∨ request = .addTimerInLoop address) ∧
        request.removes address = false := by
  obtain ⟨added, rfl⟩ | ⟨plain, changes, same, keeps⟩ := perform_cases queue request
  · obtain ⟨when, inside⟩ := mem_perform_add (fresh added rfl)
    have keeps : (addTimerInLoop added).removes address = false := rfl
    simp only [keeps, and_true, TimerQueue.Lists, inside, addTimerInLoop.injEq]
    constructor
    · rintro ⟨entry, rfl | member, rfl⟩
      · exact .inr rfl
      · exact .inl ⟨entry, member, rfl⟩
    · rintro (⟨entry, member, rfl⟩ | rfl)
      · exact ⟨entry, .inr member, rfl⟩
      · exact ⟨_, .inl rfl, rfl⟩
  · rw [same, or_iff_left (plain address), keeps]
    constructor
    · rintro ⟨entry, inside, rfl⟩
      obtain before | absent := (TimerQueue.edits_frame queue changes).entries entry inside
      · exact ⟨⟨entry, before, rfl⟩, (formed.mem_edits_iff before changes).mp inside⟩
      · exact absurd absent there
    · rintro ⟨⟨entry, inside, rfl⟩, kept⟩
      exact ⟨entry, (formed.mem_edits_iff inside changes).mpr kept, rfl⟩

end TimerRequest

namespace EventLoop

variable {Cb : Type}

/-- A move of the loop thread executes a functor, swaps the vectors, or leaves both alone. -/
theorem advance_cases (loop : EventLoop Cb) (batch : loop.place ≠ .executing → loop.functors = []) :
    (loop.place = .executing ∧ ∃ cb rest, loop.functors = cb :: rest ∧
        loop.advance.functors = rest ∧ loop.advance.pendingFunctors = loop.pendingFunctors ∧
        loop.advance.place = .executing) ∨
      (loop.place = .swapping ∧ loop.functors = [] ∧
        loop.advance.functors = loop.pendingFunctors ∧ loop.advance.pendingFunctors = [] ∧
        loop.advance.place = .executing) ∨
      loop.functors = [] ∧ loop.advance.functors = loop.functors ∧
        loop.advance.pendingFunctors = loop.pendingFunctors ∧ loop.advance.place ≠ .executing := by
  by_cases executing : loop.place = .executing
  · have moved : loop.advance = loop.executeFunctor := by rw [advance, executing]
    rw [moved]
    unfold executeFunctor
    split
    · rename_i finished
      exact .inr (.inr ⟨finished, rfl, rfl, nofun⟩)
    · rename_i cb rest functors
      exact .inl ⟨executing, cb, rest, functors, rfl, rfl, executing⟩
  · have finished := batch executing
    by_cases swapping : loop.place = .swapping
    · rw [advance, swapping]
      exact .inr (.inl ⟨rfl, finished, rfl, rfl, rfl⟩)
    · refine .inr (.inr ⟨finished, ?_⟩)
      unfold advance
      cases place : loop.place with
      | executing => exact absurd place executing
      | swapping => exact absurd place swapping
      | testing =>
          dsimp only
          split
          · exact ⟨rfl, rfl, nofun⟩
          · exact ⟨rfl, rfl, nofun⟩
      | returned => exact ⟨rfl, rfl, executing⟩
      | outside => exact ⟨rfl, rfl, nofun⟩
      | timers => exact ⟨rfl, rfl, nofun⟩
      | polling => exact ⟨rfl, rfl, nofun⟩
      | handling => exact ⟨rfl, rfl, nofun⟩
      | frame => exact ⟨rfl, rfl, nofun⟩

/-- A loop that nobody tells to quit does not return. -/
theorem advance_goesOn (loop : EventLoop Cb)
    (goesOn : loop.quit = false ∧ loop.place ≠ .returned) :
    loop.advance.quit = false ∧ loop.advance.place ≠ .returned := by
  obtain ⟨goes, inside⟩ := goesOn
  unfold advance
  cases place : loop.place with
  | returned => exact absurd place inside
  | testing =>
      simp only [goes, Bool.false_eq_true, if_false]
      exact ⟨goes, nofun⟩
  | executing =>
      dsimp only
      unfold executeFunctor
      split
      · exact ⟨goes, nofun⟩
      · exact ⟨goes, inside⟩
  | outside => exact ⟨rfl, nofun⟩
  | timers => exact ⟨goes, nofun⟩
  | polling => exact ⟨goes, nofun⟩
  | handling => exact ⟨goes, nofun⟩
  | swapping => exact ⟨goes, nofun⟩
  | frame => exact ⟨goes, nofun⟩

end EventLoop

namespace SharedTimers

/-!
## Where the loop thread stands
-/

/-- The functors that wait: what is left of the batch and what is pending. -/
def requests (shared : SharedTimers Callback) : List TimerRequest :=
  shared.loop.functors ++ shared.loop.pendingFunctors

structure Placed (shared : SharedTimers Callback) : Prop where
  batch : shared.loop.place ≠ .executing → shared.loop.functors = []
  inPass : shared.timers.place ≠ .outside → shared.loop.place = .timers
  goesOn : shared.loop.quit = false ∧ shared.loop.place ≠ .returned

theorem new_placed : (new : SharedTimers Callback).Placed where
  batch _ := rfl
  inPass walking := absurd rfl walking
  goesOn := ⟨rfl, nofun⟩

/-- What a step does to the functors, the timers and the calls of `add_timer`. -/
inductive Change (shared : SharedTimers Callback) : SharedTimers Callback → Prop
  | makes {address : TimerAddress} (callback : Callback) (when interval count : Int64)
      (free : shared.timers.queue.IsFree address) :
      Change shared { shared.setQueue
          (shared.timers.queue.newTimer address callback when interval count) with
        made := address :: shared.made }
  | adds {address : TimerAddress} (underWay : address ∈ shared.made) :
      Change shared { shared.queue (.addTimerInLoop address) with
        made := shared.made.erase address }
  | asks {request : TimerRequest} (plain : ∀ address, request ≠ .addTimerInLoop address)
      (handed : ∀ address, request.timer? = some address → shared.HandedOut address) :
      Change shared (shared.queue request)
  | runs (action : TimerStep Callback)
      (site : (∃ change, action = .edit change) ∨ shared.loop.place = .timers)
      {loop : EventLoop TimerRequest} (functors : loop.functors = shared.loop.functors)
      (pending : loop.pendingFunctors = shared.loop.pendingFunctors) :
      Change shared { shared with timers := shared.timers.step action, loop := loop }
  | moves {loop : EventLoop TimerRequest} (functors : loop.functors = shared.loop.functors)
      (pending : loop.pendingFunctors = shared.loop.pendingFunctors) :
      Change shared { shared with loop := loop }
  | swaps (finished : shared.loop.functors = []) {loop : EventLoop TimerRequest}
      (functors : loop.functors = shared.loop.pendingFunctors)
      (pending : loop.pendingFunctors = []) :
      Change shared { shared with loop := loop }
  | performs {request : TimerRequest} {rest : List TimerRequest}
      (batch : shared.loop.functors = request :: rest) (outside : shared.timers.place = .outside)
      {loop : EventLoop TimerRequest} (functors : loop.functors = rest)
      (pending : loop.pendingFunctors = shared.loop.pendingFunctors) :
      Change shared { shared.setQueue (request.perform shared.timers.queue) with loop := loop }

theorem nextRequest_eq_some_iff {shared : SharedTimers Callback} {request : TimerRequest} :
    shared.nextRequest = some request ↔
      shared.loop.place = .executing ∧ ∃ rest, shared.loop.functors = request :: rest := by
  unfold nextRequest
  split
  · rename_i here
    rw [List.head?_eq_some_iff]
    exact (and_iff_right here).symm
  · rename_i elsewhere
    exact iff_of_false nofun fun both => elsewhere both.1

theorem nextRequest_of_executing {shared : SharedTimers Callback}
    (here : shared.loop.place = .executing) :
    shared.nextRequest = shared.loop.functors.head? := by
  rw [nextRequest, if_pos here]

/-- The loop thread's move from a place outside `do_timer`. -/
theorem advance_change {shared : SharedTimers Callback} (placed : shared.Placed) :
    Change shared shared.advance ∧ shared.advance.Placed := by
  unfold advance
  split
  · exact ⟨.moves rfl rfl, placed⟩
  · rename_i elsewhere
    have outside : shared.timers.place = .outside :=
      by_contra fun walking => elsewhere (placed.inPass walking)
    have rests : ∀ {loop : EventLoop TimerRequest}, shared.timers.place ≠ .outside →
        loop.place = .timers := fun walking => absurd outside walking
    have goesOn := shared.loop.advance_goesOn placed.goesOn
    obtain ⟨here, request, rest, batch, functors, pending, stays⟩ |
      ⟨here, finished, functors, pending, stays⟩ |
      ⟨finished, functors, pending, leaves⟩ := shared.loop.advance_cases placed.batch
    · have next := nextRequest_eq_some_iff.mpr ⟨here, rest, batch⟩
      rw [next]
      refine ⟨.performs batch outside functors pending, ?_, rests, goesOn⟩
      exact fun other => absurd stays other
    · have next : shared.nextRequest = none := by
        rw [nextRequest, if_neg (by rw [here]; decide)]
      rw [next]
      exact ⟨.swaps finished functors pending, fun other => absurd stays other, rests, goesOn⟩
    · have next : shared.nextRequest = none := by
        unfold nextRequest
        split
        · rw [finished, List.head?_nil]
        · rfl
      rw [next]
      exact ⟨.moves functors pending, fun _ => functors.trans finished, rests, goesOn⟩

theorem iterate_change {shared : SharedTimers Callback} (placed : shared.Placed)
    (edits : List (TimerEdit Callback)) :
    Change shared (shared.iterate edits) ∧ (shared.iterate edits).Placed := by
  by_cases outside : shared.timers.place = .outside
  · have rests : shared.timers.iterate edits = shared.timers :=
      TimerLoop.run_iterate_of_rests (.inl outside) [edits]
    have same : shared.iterate edits = shared := by
      simp only [iterate, rests, outside, ne_eq, not_true_eq_false, false_and, if_false]
    rw [same]
    exact ⟨.moves rfl rfl, placed⟩
  · have here := placed.inPass outside
    have finished := placed.batch (by rw [here]; decide)
    have ends : shared.loop.advance = shared.loop.moveTo .polling := by
      rw [EventLoop.advance, here]
    unfold iterate
    dsimp only
    split
    · rename_i ended
      rw [ends]
      refine ⟨.runs (.iterate edits) (.inr here) rfl rfl, fun _ => finished, ?_, placed.goesOn.1,
        nofun⟩
      exact fun walking => absurd ended.2 walking
    · exact ⟨.runs (.iterate edits) (.inr here) rfl rfl, fun _ => finished, fun _ => here,
        placed.goesOn⟩

/-- Every step is one of the changes, and leaves the loop thread where it may stand. -/
theorem step_change {shared : SharedTimers Callback} (placed : shared.Placed)
    (action : SharedTimerStep Callback) :
    Change shared (shared.step action) ∧ (shared.step action).Placed := by
  have stays : Change shared shared ∧ shared.Placed := ⟨.moves rfl rfl, placed⟩
  cases action with
  | newTimer overload address callback when interval repeatCount =>
      simp only [step]
      split
      · rename_i free
        exact ⟨.makes callback when interval _ free, placed.batch, placed.inPass, placed.goesOn⟩
      · exact stays
  | addTimer address =>
      simp only [step]
      split
      · rename_i underWay
        exact ⟨.adds underWay, placed.batch, placed.inPass, placed.goesOn⟩
      · exact stays
  | removeTimer timerId =>
      simp only [step]
      split
      · rename_i handed
        refine ⟨.asks nofun ?_, placed.batch, placed.inPass, placed.goesOn⟩
        rintro address ⟨⟩
        exact handed
      · exact stays
  | cancel timerId off =>
      simp only [step]
      split
      · rename_i handed
        refine ⟨.asks nofun ?_, placed.batch, placed.inPass, placed.goesOn⟩
        rintro address ⟨⟩
        exact handed
      · exact stays
  | queueInLoop => exact ⟨.asks nofun nofun, placed.batch, placed.inPass, placed.goesOn⟩
  | inLoop change =>
      simp only [step]
      split
      · refine ⟨.runs (.edit change) (.inl ⟨change, rfl⟩) rfl rfl, placed.batch, ?_, placed.goesOn⟩
        have place : (shared.timers.step (.edit change)).place = shared.timers.place := by
          simp only [TimerLoop.step]
          split
          · rfl
          · rfl
        rw [place]
        exact placed.inPass
      · exact stays
  | advance => exact advance_change placed
  | doTimer now =>
      simp only [step]
      split
      · rename_i here
        exact ⟨.runs (.doTimer now) (.inr here) rfl rfl, placed.batch, fun _ => here, placed.goesOn⟩
      · exact stays
  | iterate edits => exact iterate_change placed edits

/-!
## What waits
-/

/-- The timers that are being made, those whose addition waits and those in `timers_` are
different ones, and what waits about a timer comes behind its addition. -/
structure Sound (shared : SharedTimers Callback) : Prop where
  placed : shared.Placed
  stands : shared.timers.Stands
  there : ∀ request ∈ shared.requests, ∀ address, request.timer? = some address →
    shared.timers.queue.objects address ≠ none
  order : shared.requests.Pairwise fun first later => ∀ address,
    later = .addTimerInLoop address → first.timer? ≠ some address
  fresh : ∀ address, .addTimerInLoop address ∈ shared.requests →
    ¬ shared.timers.queue.Lists address
  made : ∀ address ∈ shared.made, shared.timers.queue.objects address ≠ none ∧
    ¬ shared.timers.queue.Lists address ∧
    ∀ request ∈ shared.requests, request.timer? ≠ some address
  once : shared.made.Nodup

theorem new_sound : (new : SharedTimers Callback).Sound where
  placed := new_placed
  stands := TimerLoop.empty_stands
  there := nofun
  order := List.Pairwise.nil
  fresh := nofun
  made := nofun
  once := List.nodup_nil

/-- A change that leaves alone what waits, and brings no timer in that was made before. -/
theorem Sound.transfer {shared after : SharedTimers Callback} (sound : shared.Sound)
    (placed : after.Placed) (stands : after.timers.Stands)
    (requests : after.requests = shared.requests) (made : after.made = shared.made)
    (there : ∀ address, shared.timers.queue.objects address ≠ none →
      after.timers.queue.objects address ≠ none)
    (out : ∀ address, shared.timers.queue.objects address ≠ none →
      ¬ shared.timers.queue.Lists address → ¬ after.timers.queue.Lists address) :
    after.Sound where
  placed := placed
  stands := stands
  there := by
    rw [requests]
    exact fun request member address named =>
      there address (sound.there request member address named)
  order := by
    rw [requests]
    exact sound.order
  fresh := by
    rw [requests]
    intro address waits
    exact out address (sound.there _ waits address rfl) (sound.fresh address waits)
  made := by
    rw [requests, made]
    intro address underWay
    obtain ⟨object, unlisted, unnamed⟩ := sound.made address underWay
    exact ⟨there address object, out address object unlisted, unnamed⟩
  once := by
    rw [made]
    exact sound.once

/-- A functor that joins the queue: what it is bound to is there, and an addition is the first
functor of its timer. -/
theorem Sound.queue {shared : SharedTimers Callback} (sound : shared.Sound)
    {request : TimerRequest} {made : List TimerAddress} (fewer : made.Sublist shared.made)
    (object : ∀ address, request.timer? = some address →
      shared.timers.queue.objects address ≠ none ∧ address ∉ made)
    (first : ∀ address, request = .addTimerInLoop address →
      ¬ shared.timers.queue.Lists address ∧
        ∀ earlier ∈ shared.requests, earlier.timer? ≠ some address) :
    Sound { shared.queue request with made := made } := by
  have requests : ({ shared.queue request with made := made } : SharedTimers Callback).requests =
      shared.requests ++ [request] := (List.append_assoc _ _ _).symm
  constructor
  case placed => exact ⟨sound.placed.batch, sound.placed.inPass, sound.placed.goesOn⟩
  case stands => exact sound.stands
  case there =>
    rw [requests]
    intro other member address named
    obtain before | last := List.mem_append.mp member
    · exact sound.there other before address named
    · rw [List.mem_singleton.mp last] at named
      exact (object address named).1
  case order =>
    rw [requests]
    refine List.pairwise_append.mpr ⟨sound.order, List.pairwise_singleton _ _, ?_⟩
    intro earlier member later last address added
    rw [List.mem_singleton.mp last] at added
    exact (first address added).2 earlier member
  case fresh =>
    rw [requests]
    intro address member
    obtain before | last := List.mem_append.mp member
    · exact sound.fresh address before
    · exact (first address (List.mem_singleton.mp last).symm).1
  case made =>
    rw [requests]
    intro address underWay
    obtain ⟨there, unlisted, unnamed⟩ := sound.made address (fewer.subset underWay)
    refine ⟨there, unlisted, fun other member named => ?_⟩
    obtain before | last := List.mem_append.mp member
    · exact unnamed other before named
    · rw [List.mem_singleton.mp last] at named
      exact (object address named).2 underWay
  case once => exact sound.once.sublist fewer

/-- The functor that is executed leaves the queue. -/
theorem Sound.perform {shared after : SharedTimers Callback} (sound : shared.Sound)
    {request : TimerRequest} (requests : shared.requests = request :: after.requests)
    (outside : shared.timers.place = .outside) (placed : after.Placed)
    (timers : after.timers =
      { shared.timers with queue := request.perform shared.timers.queue })
    (made : after.made = shared.made) : after.Sound := by
  have order := sound.order
  rw [requests, List.pairwise_cons] at order
  obtain ⟨ahead, order⟩ := order
  have inside : request ∈ shared.requests := by
    rw [requests]
    exact List.mem_cons_self
  have later : ∀ other ∈ after.requests, other ∈ shared.requests := by
    rw [requests]
    exact fun other member => List.mem_cons_of_mem request member
  have present : ∀ added, request = .addTimerInLoop added →
      shared.timers.queue.objects added ≠ none := by
    rintro added rfl
    exact sound.there _ inside added rfl
  have out : ∀ address, shared.timers.queue.objects address ≠ none →
      ¬ shared.timers.queue.Lists address → request.timer? ≠ some address →
      ¬ after.timers.queue.Lists address := by
    intro address there unlisted differs listed
    rw [timers, TimerRequest.perform_lists_iff sound.stands.formed present there] at listed
    obtain before | rfl := listed.1
    · exact unlisted before
    · exact differs rfl
  have there : ∀ address, shared.timers.queue.objects address ≠ none →
      after.timers.queue.objects address ≠ none := by
    rw [timers]
    exact fun address => TimerRequest.perform_there request
  constructor
  case placed => exact placed
  case stands =>
    rw [timers]
    refine ⟨TimerRequest.perform_wellFormed sound.stands.formed ?_, ?_⟩
    · rintro added rfl
      exact ⟨present added rfl, sound.fresh added inside⟩
    · intro now entry walking
      cases outside.symm.trans walking
  case there =>
    exact fun other member address named =>
      there address (sound.there other (later other member) address named)
  case order => exact order
  case fresh =>
    intro address waits
    have before := later _ waits
    exact out address (sound.there _ before address rfl) (sound.fresh address before)
      (ahead _ waits address rfl)
  case made =>
    rw [made]
    intro address underWay
    obtain ⟨object, unlisted, unnamed⟩ := sound.made address underWay
    exact ⟨there address object, out address object unlisted (unnamed request inside),
      fun other member => unnamed other (later other member)⟩
  case once =>
    rw [made]
    exact sound.once

theorem Change.sound {shared after : SharedTimers Callback} (change : Change shared after)
    (sound : shared.Sound) (placed : after.Placed) : after.Sound := by
  cases change with
  | @makes address callback when interval count free =>
      have formed := sound.stands.formed.makeTimer address callback when interval count
      refine ⟨placed, ⟨formed, sound.stands.inside⟩, ?_, sound.order, sound.fresh, ?_, ?_⟩
      · exact fun request member other named =>
          TimerQueue.newTimer_there (sound.there request member other named) callback when
            interval count
      · intro other underWay
        obtain rfl | before := List.mem_cons.mp underWay
        · refine ⟨by simp [setQueue, TimerQueue.newTimer], ?_, ?_⟩
          · exact TimerQueue.not_lists_iff.mpr (sound.stands.formed.not_mem_of_isFree free)
          · exact fun request member named => sound.there request member other named free.2
        · obtain ⟨there, unlisted, unnamed⟩ := sound.made other before
          exact ⟨TimerQueue.newTimer_there there callback when interval count, unlisted, unnamed⟩
      · exact List.nodup_cons.mpr ⟨fun before => (sound.made address before).1 free.2, sound.once⟩
  | @adds address underWay =>
      obtain ⟨there, unlisted, unnamed⟩ := sound.made address underWay
      refine sound.queue List.erase_sublist ?_ ?_
      · rintro other ⟨⟩
        exact ⟨there, sound.once.not_mem_erase⟩
      · rintro other ⟨⟩
        exact ⟨unlisted, unnamed⟩
  | asks plain handed =>
      refine sound.queue (List.Sublist.refl _) ?_ fun address added => absurd added (plain address)
      intro address named
      obtain ⟨there, unmade⟩ := handed address named
      exact ⟨Option.isSome_iff_ne_none.mp there, unmade⟩
  | runs action site functors pending =>
      have requests := congrArg₂ (· ++ ·) functors pending
      refine sound.transfer placed (TimerLoop.step_stands _ action sound.stands) requests rfl ?_ ?_
      · exact fun address there => sound.stands.step_there there action
      · intro address there out
        have kept := sound.stands.step_stays_out there (TimerQueue.not_lists_iff.mp out) action
        exact TimerQueue.not_lists_iff.mpr kept
  | moves functors pending =>
      have requests := congrArg₂ (· ++ ·) functors pending
      exact sound.transfer placed sound.stands requests rfl (fun _ there => there)
        fun _ _ out => out
  | @swaps finished loop functors pending =>
      have requests : ({ shared with loop := loop } : SharedTimers Callback).requests =
          shared.requests := by
        simp only [SharedTimers.requests, functors, pending, finished, List.append_nil,
          List.nil_append]
      exact sound.transfer placed sound.stands requests rfl (fun _ there => there)
        fun _ _ out => out
  | @performs request rest batch outside loop functors pending =>
      refine sound.perform ?_ outside placed rfl rfl
      simp only [SharedTimers.requests, batch, functors, pending, List.cons_append]

theorem step_sound (shared : SharedTimers Callback) (action : SharedTimerStep Callback)
    (sound : shared.Sound) : (shared.step action).Sound := by
  obtain ⟨change, placed⟩ := step_change sound.placed action
  exact change.sound sound placed

theorem run_sound (actions : List (SharedTimerStep Callback)) : (run step new actions).Sound :=
  run_invariant_always Sound step_sound new_sound actions

end SharedTimers

end Talko.Network
