import Mathlib.Algebra.Group.Nat.Defs
import Mathlib.Algebra.Ring.Int.Defs
import Talko.Library.KeyedList
import Talko.Network.TimerLoop

/-!
# When and how often a timer runs

The calls of one timer over a whole run: as long as the start time and `j` intervals more fit into
an `int64_t`, the `j`-th is made in a pass whose clock has reached that time; no pass makes two,
and a timer with a count is called no more often than that. A timer is called only while it is in
`timers_` and not cancelled.
-/

set_option autoImplicit false

namespace Talko.Network

open Talko.Library

namespace TimerLoop

variable {Callback : Type}

/-- The calls of one timer, in their order. -/
def callsOf (loop : TimerLoop Callback) (address : TimerAddress) : List (Invocation Callback) :=
  loop.log.filter (·.timer = address)

/-!
## What a step does
-/

/-- The four kinds of steps: an edit between passes, the start of a pass, a step that moves the
place alone, and an iteration that runs a timer that is due. -/
theorem step_cases (loop : TimerLoop Callback) (action : TimerStep Callback) :
    (∃ change, loop.place = .outside ∧
        loop.step action = { loop with queue := loop.queue.edit change }) ∨
      (∃ now, loop.step action =
        { loop with place := .walking now loop.queue.timers.head?, passes := loop.passes + 1 }) ∨
      (∃ place, (place = loop.place ∨ place = .outside ∨ place = .broken) ∧
        loop.step action = { loop with place := place }) ∨
      ∃ now entry timer edits, loop.place = .walking now (some entry) ∧
        loop.queue.objects entry.timer = some timer ∧ timer.expiration ≤ now ∧
        loop.step action = loop.advance now entry (loop.queue.runTimer entry.timer timer edits) := by
  have stays : ∃ place, (place = loop.place ∨ place = .outside ∨ place = .broken) ∧
      loop = { loop with place := place } := ⟨loop.place, .inl rfl, rfl⟩
  cases action with
  | edit change =>
      simp only [step]
      split
      · rename_i outside
        exact .inl ⟨change, outside, rfl⟩
      · exact .inr (.inr (.inl stays))
  | doTimer now =>
      simp only [step]
      split
      · exact .inr (.inl ⟨now, rfl⟩)
      · exact .inr (.inr (.inl stays))
  | iterate edits =>
      simp only [step, iterate]
      split
      · exact .inr (.inr (.inl stays))
      · exact .inr (.inr (.inl stays))
      · exact .inr (.inr (.inl ⟨.outside, .inr (.inl rfl), rfl⟩))
      · rename_i now entry place
        split
        · exact .inr (.inr (.inl ⟨.broken, .inr (.inr rfl), rfl⟩))
        · rename_i timer found
          split
          · rename_i due
            exact .inr (.inr (.inr ⟨now, entry, timer, edits, place, found, due, rfl⟩))
          · exact .inr (.inr (.inl ⟨.outside, .inr (.inl rfl), rfl⟩))

/-- What an iteration leaves behind, whether or not `iter` survives it. -/
structure Advanced (loop after : TimerLoop Callback) (now : Int64) (entry : TimerEntry)
    (ran : TimerQueue Callback × List (TimerAddress × Callback)) : Prop where
  objects : after.queue.objects = ran.1.objects
  timers : ∀ other ∈ after.queue.timers, other ∈ ran.1.timers
  passes : after.passes = loop.passes
  log : after.log = loop.log ++ loop.invocations now ran.2
  ahead : ∀ now' next, after.place = .walking now' (some next) → entry < next
  spent : ran.1.repeatCount entry.timer = some 0 → entry ∉ after.queue.timers

theorem advance_advanced (loop : TimerLoop Callback) (now : Int64) (entry : TimerEntry)
    {ran : TimerQueue Callback × List (TimerAddress × Callback)} (formed : ran.1.WellFormed) :
    Advanced loop (loop.advance now entry ran) now entry ran := by
  by_cases still : entry ∈ ran.1.timers
  · rw [advance_of_mem loop now still]
    constructor
    case objects => exact TimerQueue.retire_objects ran.1 entry
    case timers =>
      intro other inside
      unfold TimerQueue.retire at inside
      split at inside
      · exact List.mem_of_mem_erase inside
      · exact inside
    case passes => rfl
    case log => rfl
    case ahead =>
      intro now' next place
      injection place with _ follows
      simpa using List.find?_some follows
    case spent =>
      intro zero inside
      have distinct : ran.1.timers.Nodup := formed.ascending.imp ne_of_lt
      simp only [TimerQueue.retire, zero, if_true] at inside
      exact (distinct.mem_erase_iff.mp inside).1 rfl
  · rw [advance_of_not_mem loop now still]
    refine ⟨rfl, fun _ inside => inside, rfl, rfl, ?_, fun _ => still⟩
    intro now' next place
    cases place

theorem runTimer_objects_other {queue : TimerQueue Callback} {address other : TimerAddress}
    (different : other ≠ address) (timer : Timer Callback) (edits : List (TimerEdit Callback))
    {held : Timer Callback} (found : queue.objects other = some held) :
    ∃ canceled, (queue.runTimer address timer edits).1.objects other =
      some { held with canceled := canceled } := by
  unfold TimerQueue.runTimer
  split
  · exact ⟨held.canceled, found⟩
  · rw [TimerQueue.modifyTimer_objects_of_ne _ _ different]
    exact (TimerQueue.edits_frame queue edits).objects other held found

theorem runTimer_entries (queue : TimerQueue Callback) (address : TimerAddress)
    (timer : Timer Callback) (edits : List (TimerEdit Callback)) :
    ∀ entry ∈ (queue.runTimer address timer edits).1.timers,
      entry ∈ queue.timers ∨ queue.objects entry.timer = none := by
  unfold TimerQueue.runTimer
  split
  · exact fun entry inside => .inl inside
  · exact (TimerQueue.edits_frame queue edits).entries

theorem runTimer_objects_self {queue : TimerQueue Callback} {address : TimerAddress}
    {timer : Timer Callback} (found : queue.objects address = some timer)
    (runs : timer.canceled = false) (edits : List (TimerEdit Callback)) :
    ∃ canceled, (queue.runTimer address timer edits).1.objects address =
      some ({ timer with canceled := canceled }.afterCallback) := by
  obtain ⟨canceled, found'⟩ := (TimerQueue.edits_frame queue edits).objects address timer found
  refine ⟨canceled, ?_⟩
  simp [TimerQueue.runTimer, runs, TimerQueue.modifyTimer, found']

/-!
## The calls of an iteration
-/

theorem Advanced.callsOf_other {loop after : TimerLoop Callback} {now : Int64} {entry : TimerEntry}
    {timer : Timer Callback} {edits : List (TimerEdit Callback)}
    (advanced : Advanced loop after now entry
      (loop.queue.runTimer entry.timer timer edits))
    {address : TimerAddress} (silent : entry.timer ≠ address ∨ timer.canceled = true) :
    after.callsOf address = loop.callsOf address := by
  simp only [callsOf, advanced.log, TimerQueue.runTimer, invocations]
  obtain different | canceled := silent
  · split
    · simp
    · simp [different]
  · simp [canceled]

theorem Advanced.callsOf_self {loop after : TimerLoop Callback} {now : Int64} {entry : TimerEntry}
    {timer : Timer Callback} {edits : List (TimerEdit Callback)}
    (advanced : Advanced loop after now entry
      (loop.queue.runTimer entry.timer timer edits)) (runs : timer.canceled = false) :
    after.callsOf entry.timer =
      loop.callsOf entry.timer ++ [⟨entry.timer, timer.callback, loop.passes, now⟩] := by
  simp [callsOf, advanced.log, TimerQueue.runTimer, invocations, runs]

/-- An iteration brings in no entry of a timer that was there. -/
theorem Advanced.entries_old {loop after : TimerLoop Callback} {now : Int64} {entry : TimerEntry}
    {timer : Timer Callback} {edits : List (TimerEdit Callback)}
    (advanced : Advanced loop after now entry (loop.queue.runTimer entry.timer timer edits))
    {address : TimerAddress} (there : loop.queue.objects address ≠ none) {other : TimerEntry}
    (inside : other ∈ after.queue.timers) (same : other.timer = address) :
    other ∈ loop.queue.timers := by
  obtain before | absent := runTimer_entries loop.queue entry.timer timer edits other
    (advanced.timers other inside)
  · exact before
  · exact absurd (same ▸ absent) there

/-!
## The invariant
-/

/-- The start time and that many intervals more. -/
def dueAt (when interval : Int64) (calls : Nat) : Int :=
  when.toInt + calls * interval.toInt

/-- How the object of a timer, made with this start time, interval and count, stands after that
many calls. The expiration is what `int64_t` can hold of the time it is due at. -/
structure Progress (when interval count : Int64) (calls : Nat) (timer : Timer Callback) : Prop where
  every : timer.interval = interval
  expires : timer.expiration.toInt = (dueAt when interval calls).bmod (2 ^ 64)
  counts : 1 ≤ count.toInt →
    timer.repeatCount.toInt = count.toInt - calls ∧ (calls : Int) < count.toInt
  endless : count = -1 → timer.repeatCount = -1

/-- How the calls of a timer, made with this start time, interval and count, and its object
agree while the loop goes on. -/
structure Tracks (address : TimerAddress) (when interval count : Int64)
    (loop : TimerLoop Callback) : Prop where
  stands : loop.Stands
  there : loop.queue.objects address ≠ none
  early : 0 ≤ interval.toInt → ∀ (index : Nat) (call : Invocation Callback),
    (loop.callsOf address)[index]? = some call → dueAt when interval index < 2 ^ 63 →
      dueAt when interval index ≤ call.now.toInt
  distinct : ((loop.callsOf address).map (·.pass)).Nodup
  begun : ∀ call ∈ loop.callsOf address, call.pass ≤ loop.passes
  counted : 1 ≤ count.toInt → ((loop.callsOf address).length : Int) ≤ count.toInt
  listed : ∀ entry ∈ loop.queue.timers, entry.timer = address →
    ∃ timer, loop.queue.objects address = some timer ∧
      Progress when interval count (loop.callsOf address).length timer
  ahead : ∀ now iter, loop.place = .walking now (some iter) →
    (∃ call ∈ loop.callsOf address, call.pass = loop.passes) →
    ∀ entry ∈ loop.queue.timers, entry.timer = address → entry < iter

section

variable {address : TimerAddress} {when interval count : Int64}

/-- A step that does not call the timer. -/
theorem Tracks.transfer {loop after : TimerLoop Callback}
    (tracks : loop.Tracks address when interval count) (stands : after.Stands)
    (calls : after.callsOf address = loop.callsOf address) (passes : loop.passes ≤ after.passes)
    (objects : ∀ held, loop.queue.objects address = some held →
      ∃ canceled, after.queue.objects address = some { held with canceled := canceled })
    (entries : ∀ entry ∈ after.queue.timers, entry.timer = address → entry ∈ loop.queue.timers)
    (ahead : ∀ now iter, after.place = .walking now (some iter) →
      (∃ call ∈ loop.callsOf address, call.pass = after.passes) →
      ∀ entry ∈ after.queue.timers, entry.timer = address → entry < iter) :
    after.Tracks address when interval count where
  stands := stands
  there := by
    obtain ⟨held, found⟩ := Option.ne_none_iff_exists'.mp tracks.there
    obtain ⟨canceled, found'⟩ := objects held found
    simp [found']
  early := by
    rw [calls]
    exact tracks.early
  distinct := by
    rw [calls]
    exact tracks.distinct
  begun := by
    rw [calls]
    exact fun call member => (tracks.begun call member).trans passes
  counted := by
    rw [calls]
    exact tracks.counted
  listed entry inside same := by
    obtain ⟨timer, found, progress⟩ := tracks.listed entry (entries entry inside same) same
    obtain ⟨canceled, found'⟩ := objects timer found
    rw [calls]
    exact ⟨_, found', progress.every, progress.expires, progress.counts, progress.endless⟩
  ahead := by
    rw [calls]
    exact ahead

theorem dueAt_succ (when interval : Int64) (calls : Nat) :
    dueAt when interval (calls + 1) = dueAt when interval calls + interval.toInt := by
  simp only [dueAt, Int.natCast_add, Int.natCast_one, Int.add_mul, Int.one_mul, Int.add_assoc]

/-- As long as the time fits, the expiration is that time. -/
theorem Progress.expires_of_fits {timer : Timer Callback} {calls : Nat}
    (progress : Progress when interval count calls timer) (forward : 0 ≤ interval.toInt)
    (fits : dueAt when interval calls < 2 ^ 63) :
    timer.expiration.toInt = dueAt when interval calls := by
  have start := when.le_toInt
  have later : 0 ≤ (calls : Int) * interval.toInt := Int.mul_nonneg (Int.natCast_nonneg _) forward
  have above : when.toInt ≤ dueAt when interval calls := Int.le_add_of_nonneg_right later
  rw [progress.expires]
  exact Int.bmod_eq_of_le (by omega) (by omega)

theorem toInt_sub_one {value : Int64} (positive : 1 ≤ value.toInt) :
    (value - 1).toInt = value.toInt - 1 := by
  have one : (1 : Int64).toInt = 1 := rfl
  have below := value.toInt_lt
  rw [Int64.toInt_sub, one]
  exact Int.bmod_eq_of_le (by omega) (by omega)

/-- The object after one more call: the next expiration and the count that is left, or a count
that is used up. -/
theorem Progress.afterCallback {timer : Timer Callback} {calls : Nat}
    (progress : Progress when interval count calls timer) :
    timer.afterCallback.repeatCount = 0 ∨
      Progress when interval count (calls + 1) timer.afterCallback := by
  have next : (timer.expiration + timer.interval).toInt =
      (dueAt when interval (calls + 1)).bmod (2 ^ 64) := by
    rw [Int64.toInt_add, progress.expires, progress.every, dueAt_succ, Int.bmod_add_bmod]
  unfold Timer.afterCallback
  split
  · rename_i counted
    split
    · rename_i last
      exact .inl last
    · rename_i more
      refine .inr ⟨progress.every, next, fun positive => ?_, fun endless => ?_⟩
      · obtain ⟨left, within⟩ := progress.counts positive
        have less : (timer.repeatCount - 1).toInt = timer.repeatCount.toInt - 1 :=
          toInt_sub_one (by omega)
        have some : (timer.repeatCount - 1).toInt ≠ 0 := fun zero =>
          more (Int64.toInt_inj.mp zero)
        dsimp only
        push_cast
        omega
      · exact absurd (progress.endless endless) counted
  · rename_i endless
    have forever : timer.repeatCount = -1 := not_not.mp endless
    refine .inr ⟨progress.every, next, fun positive => ?_, fun _ => forever⟩
    obtain ⟨left, within⟩ := progress.counts positive
    have minus : timer.repeatCount.toInt = -1 := congrArg Int64.toInt forever
    omega

/-- An iteration that calls the timer. -/
theorem Tracks.called {loop after : TimerLoop Callback} {now : Int64} {entry : TimerEntry}
    {timer : Timer Callback} {edits : List (TimerEdit Callback)}
    (tracks : loop.Tracks entry.timer when interval count) (stands : after.Stands)
    (place : loop.place = .walking now (some entry))
    (found : loop.queue.objects entry.timer = some timer) (due : timer.expiration ≤ now)
    (runs : timer.canceled = false)
    (advanced : Advanced loop after now entry (loop.queue.runTimer entry.timer timer edits)) :
    after.Tracks entry.timer when interval count := by
  have inside := tracks.stands.inside now entry place
  obtain ⟨current, found', progress⟩ := tracks.listed entry inside rfl
  cases found.symm.trans found'
  have calls := advanced.callsOf_self runs
  -- an earlier call in this pass would have the iterator behind the entry
  have fresh : ∀ call ∈ loop.callsOf entry.timer, call.pass ≠ loop.passes := by
    intro call member same
    exact lt_irrefl entry (tracks.ahead now entry place ⟨call, member, same⟩ entry inside rfl)
  obtain ⟨canceled, object⟩ := runTimer_objects_self found runs edits
  have size : (after.callsOf entry.timer).length = (loop.callsOf entry.timer).length + 1 := by
    rw [calls, List.length_append, List.length_singleton]
  have only : ∀ other ∈ after.queue.timers, other.timer = entry.timer → other = entry := by
    intro other member same
    have before := advanced.entries_old tracks.there member same
    exact tracks.stands.formed.entry_eq before inside same
  constructor
  case stands => exact stands
  case there => simp [advanced.objects, object]
  case early =>
    intro forward index call at' fits
    rw [calls] at at'
    obtain ⟨-, old⟩ | ⟨here, last⟩ := getElem?_concat_cases at'
    · exact tracks.early forward index call old fits
    · rw [here] at fits ⊢
      rw [← last, ← progress.expires_of_fits forward fits]
      exact Int64.le_iff_toInt_le.mp due
  case distinct =>
    rw [calls, List.map_append, List.map_singleton]
    apply nodup_concat_of_not_mem tracks.distinct
    intro repeated
    obtain ⟨call, member, same⟩ := List.mem_map.mp repeated
    exact fresh call member same
  case begun =>
    rw [calls, advanced.passes]
    intro call member
    obtain old | new := List.mem_append.mp member
    · exact tracks.begun call old
    · rw [List.mem_singleton.mp new]
  case counted =>
    intro positive
    obtain ⟨-, within⟩ := progress.counts positive
    rw [size]
    push_cast
    omega
  case listed =>
    intro other member same
    rw [size, advanced.objects, object]
    have edited : Progress when interval count (loop.callsOf entry.timer).length
        { timer with canceled := canceled } :=
      ⟨progress.every, progress.expires, progress.counts, progress.endless⟩
    obtain spent | going := edited.afterCallback
    · have zero : (loop.queue.runTimer entry.timer timer edits).1.repeatCount entry.timer =
          some 0 := by
        rw [TimerQueue.repeatCount, object]
        exact congrArg some spent
      have gone := advanced.spent zero
      exact absurd (only other member same ▸ member) gone
    · exact ⟨_, rfl, going⟩
  case ahead =>
    intro now' next place' _ other member same
    rw [only other member same]
    exact advanced.ahead now' next place'

/-- An iteration at another timer, or at a cancelled one. -/
theorem Tracks.uncalled {loop after : TimerLoop Callback} {now : Int64} {entry : TimerEntry}
    {timer : Timer Callback} {edits : List (TimerEdit Callback)}
    (tracks : loop.Tracks address when interval count) (stands : after.Stands)
    (place : loop.place = .walking now (some entry))
    (found : loop.queue.objects entry.timer = some timer)
    (silent : entry.timer ≠ address ∨ timer.canceled = true)
    (advanced : Advanced loop after now entry (loop.queue.runTimer entry.timer timer edits)) :
    after.Tracks address when interval count := by
  refine tracks.transfer stands (advanced.callsOf_other silent) advanced.passes.ge ?_
    (fun _ => advanced.entries_old tracks.there) ?_
  · intro held heldFound
    rw [advanced.objects]
    by_cases different : address = entry.timer
    · subst different
      cases found.symm.trans heldFound
      have canceled := silent.resolve_left (fun differs => differs rfl)
      refine ⟨timer.canceled, ?_⟩
      rw [TimerQueue.runTimer, if_pos canceled]
      exact found
    · exact runTimer_objects_other different timer edits heldFound
  · intro now' next place' recent other inside sameTimer
    rw [advanced.passes] at recent
    have before := advanced.entries_old tracks.there inside sameTimer
    have behind := tracks.ahead now entry place recent other before sameTimer
    exact behind.trans (advanced.ahead now' next place')

theorem step_tracks (loop : TimerLoop Callback) (action : TimerStep Callback)
    (tracks : loop.Tracks address when interval count) :
    (loop.step action).Tracks address when interval count := by
  have stands := step_stands loop action tracks.stands
  obtain ⟨change, outside, same⟩ | ⟨now, same⟩ | ⟨place, moves, same⟩ |
    ⟨now, entry, timer, edits, place, found, due, same⟩ := loop.step_cases action
  · rw [same] at stands ⊢
    have frame := TimerQueue.edit_frame loop.queue change
    refine tracks.transfer stands rfl le_rfl (frame.objects address) ?_ ?_
    · intro entry inside sameTimer
      obtain before | absent := frame.entries entry inside
      · exact before
      · exact absurd (sameTimer ▸ absent) tracks.there
    · intro now iter place
      cases outside.symm.trans place
  · rw [same] at stands ⊢
    refine tracks.transfer stands rfl (Nat.le_succ _) (fun held found => ⟨held.canceled, found⟩)
      (fun _ inside _ => inside) ?_
    rintro now' iter - ⟨call, member, this⟩
    exact absurd (tracks.begun call member) (by simp only at this; omega)
  · rw [same] at stands ⊢
    refine tracks.transfer stands rfl le_rfl (fun held found => ⟨held.canceled, found⟩)
      (fun _ inside _ => inside) ?_
    intro now iter walking
    obtain rfl | rfl | rfl := moves
    · exact tracks.ahead now iter walking
    · cases walking
    · cases walking
  · have ran := tracks.stands.formed.runTimer entry.timer timer edits
    have advanced := loop.advance_advanced now entry ran
    rw [← same] at advanced
    by_cases silent : entry.timer ≠ address ∨ timer.canceled = true
    · exact tracks.uncalled stands place found silent advanced
    · obtain ⟨rfl, runs⟩ : entry.timer = address ∧ timer.canceled = false := by
        simpa using silent
      exact tracks.called stands place found due runs advanced

end

/-!
## Before the timer is made
-/

/-- Every timer that was called has its object. -/
structure Known (loop : TimerLoop Callback) : Prop where
  stands : loop.Stands
  objects : ∀ call ∈ loop.log, loop.queue.objects call.timer ≠ none

theorem empty_known : (empty : TimerLoop Callback).Known where
  stands := empty_stands
  objects := nofun

theorem runTimer_there {queue : TimerQueue Callback} (address : TimerAddress)
    (timer : Timer Callback) (edits : List (TimerEdit Callback)) {other : TimerAddress}
    (there : queue.objects other ≠ none) :
    (queue.runTimer address timer edits).1.objects other ≠ none := by
  unfold TimerQueue.runTimer
  split
  · exact there
  · obtain ⟨held, found⟩ := Option.ne_none_iff_exists'.mp there
    obtain ⟨canceled, found'⟩ := (TimerQueue.edits_frame queue edits).objects other held found
    rw [← Option.isSome_iff_ne_none, TimerQueue.modifyTimer_isSome, found']
    rfl

/-- An object of a timer stays. -/
theorem Stands.step_there {loop : TimerLoop Callback} (stands : loop.Stands)
    {address : TimerAddress} (there : loop.queue.objects address ≠ none)
    (action : TimerStep Callback) : (loop.step action).queue.objects address ≠ none := by
  obtain ⟨change, outside, same⟩ | ⟨now, same⟩ | ⟨place, moves, same⟩ |
    ⟨now, entry, timer, edits, place, found, due, same⟩ := loop.step_cases action
  · rw [same]
    obtain ⟨held, found⟩ := Option.ne_none_iff_exists'.mp there
    obtain ⟨canceled, found'⟩ :=
      (TimerQueue.edit_frame loop.queue change).objects address held found
    simp [found']
  · rw [same]
    exact there
  · rw [same]
    exact there
  · have ran := stands.formed.runTimer entry.timer timer edits
    have advanced := loop.advance_advanced now entry ran
    rw [same, advanced.objects]
    exact runTimer_there entry.timer timer edits there

theorem step_known (loop : TimerLoop Callback) (action : TimerStep Callback)
    (known : loop.Known) : (loop.step action).Known := by
  refine ⟨step_stands loop action known.stands, ?_⟩
  obtain ⟨change, outside, same⟩ | ⟨now, same⟩ | ⟨place, moves, same⟩ |
    ⟨now, entry, timer, edits, place, found, due, same⟩ := loop.step_cases action
  · rw [same]
    intro call member
    obtain ⟨held, there⟩ := Option.ne_none_iff_exists'.mp (known.objects call member)
    obtain ⟨canceled, there'⟩ :=
      (TimerQueue.edit_frame loop.queue change).objects call.timer held there
    simp [there']
  · rw [same]
    exact known.objects
  · rw [same]
    exact known.objects
  · have ran := known.stands.formed.runTimer entry.timer timer edits
    have advanced := loop.advance_advanced now entry ran
    rw [← same] at advanced
    rw [advanced.log, advanced.objects]
    intro call member
    refine runTimer_there entry.timer timer edits ?_
    obtain old | new := List.mem_append.mp member
    · exact known.objects call old
    · obtain ⟨made, called, rfl⟩ := List.mem_map.mp new
      have same : made.1 = entry.timer := by
        unfold TimerQueue.runTimer at called
        split at called
        · cases called
        · rw [List.mem_singleton.mp called]
      simp [same, found]

/-- A timer that a step makes has no calls yet. -/
theorem Known.made_callsOf {loop : TimerLoop Callback} (known : loop.Known)
    {address : TimerAddress} (absent : loop.queue.objects address = none)
    (action : TimerStep Callback) : (loop.step action).callsOf address = [] := by
  have none : loop.callsOf address = [] := by
    refine List.filter_eq_nil_iff.mpr fun call member => ?_
    have there := known.objects call member
    rw [decide_eq_true_eq]
    rintro rfl
    exact there absent
  obtain ⟨change, outside, same⟩ | ⟨now, same⟩ | ⟨place, moves, same⟩ |
    ⟨now, entry, held, edits, place, found, due, same⟩ := loop.step_cases action
  · rw [same]
    exact none
  · rw [same]
    exact none
  · rw [same]
    exact none
  · have ran := known.stands.formed.runTimer entry.timer held edits
    have advanced := loop.advance_advanced now entry ran
    rw [← same] at advanced
    have different : entry.timer ≠ address := by
      rintro rfl
      rw [absent] at found
      cases found
    rw [advanced.callsOf_other (.inl different), none]

/-- It has an entry for its start time. -/
theorem Known.made_tracks {loop : TimerLoop Callback} (known : loop.Known)
    {address : TimerAddress} (absent : loop.queue.objects address = none)
    {action : TimerStep Callback} {timer : Timer Callback}
    (made : (loop.step action).queue.objects address = some timer) :
    (loop.step action).Tracks address timer.expiration timer.interval timer.repeatCount := by
  have calls := known.made_callsOf absent action
  constructor
  case stands => exact step_stands loop action known.stands
  case there => simp [made]
  case early => simp [calls]
  case distinct => simp [calls]
  case begun => simp [calls]
  case counted =>
    intro positive
    rw [calls, List.length_nil]
    omega
  case listed =>
    intro entry inside same
    refine ⟨timer, made, rfl, ?_, fun positive => ?_, id⟩
    · have low := timer.expiration.le_toInt
      have high := timer.expiration.toInt_lt
      simp only [calls, List.length_nil, dueAt, Int.natCast_zero, Int.zero_mul, Int.add_zero]
      exact (Int.bmod_eq_of_le (by omega) (by omega)).symm
    · simp only [calls, List.length_nil, Int.natCast_zero, Int.sub_zero, true_and]
      exact positive
  case ahead => simp [calls]

/-!
## Every run
-/

/-- Only an iteration at the entry of a timer that is not cancelled calls it. -/
theorem Stands.active {loop : TimerLoop Callback} (stands : loop.Stands)
    {address : TimerAddress} {action : TimerStep Callback}
    (calls : (loop.step action).callsOf address ≠ loop.callsOf address) :
    ∃ timer, loop.queue.objects address = some timer ∧ timer.canceled = false ∧
      ∃ entry ∈ loop.queue.timers, entry.timer = address := by
  obtain ⟨change, outside, same⟩ | ⟨now, same⟩ | ⟨place, moves, same⟩ |
    ⟨now, entry, timer, edits, place, found, due, same⟩ := loop.step_cases action
  · exact absurd (by rw [same]; rfl) calls
  · exact absurd (by rw [same]; rfl) calls
  · exact absurd (by rw [same]; rfl) calls
  · have ran := stands.formed.runTimer entry.timer timer edits
    have advanced := loop.advance_advanced now entry ran
    rw [← same] at advanced
    by_cases silent : entry.timer ≠ address ∨ timer.canceled = true
    · exact absurd (advanced.callsOf_other silent) calls
    · obtain ⟨rfl, runs⟩ : entry.timer = address ∧ timer.canceled = false := by
        simpa using silent
      exact ⟨timer, found, runs, entry, stands.inside now entry place, rfl⟩

/-- A timer that has left `timers_` does not come back. -/
theorem Stands.step_stays_out {loop : TimerLoop Callback} (stands : loop.Stands)
    {address : TimerAddress} (there : loop.queue.objects address ≠ none)
    (out : ∀ entry ∈ loop.queue.timers, entry.timer ≠ address) (action : TimerStep Callback) :
    ∀ entry ∈ (loop.step action).queue.timers, entry.timer ≠ address := by
  obtain ⟨change, outside, same⟩ | ⟨now, same⟩ | ⟨place, moves, same⟩ |
    ⟨now, entry, timer, edits, place, found, due, same⟩ := loop.step_cases action
  · rw [same]
    exact (TimerQueue.edit_frame loop.queue change).stays_out there out
  · rw [same]
    exact out
  · rw [same]
    exact out
  · have ran := stands.formed.runTimer entry.timer timer edits
    have advanced := loop.advance_advanced now entry ran
    rw [← same] at advanced
    intro other inside sameTimer
    obtain before | absent := runTimer_entries loop.queue entry.timer timer edits other
      (advanced.timers other inside)
    · exact out other before sameTimer
    · exact there (sameTimer ▸ absent)

theorem Tracks.gone {address : TimerAddress} {when interval count : Int64}
    {loop : TimerLoop Callback} (tracks : loop.Tracks address when interval count)
    (out : ∀ entry ∈ loop.queue.timers, entry.timer ≠ address)
    (actions : List (TimerStep Callback)) :
    (run step loop actions).callsOf address = loop.callsOf address := by
  let settled : TimerLoop Callback → Prop := fun later =>
    later.Tracks address when interval count ∧
      (∀ entry ∈ later.queue.timers, entry.timer ≠ address) ∧
      later.callsOf address = loop.callsOf address
  have kept : ∀ later action, settled later → settled (later.step action) := by
    rintro later action ⟨tracks', out', calls⟩
    refine ⟨step_tracks later action tracks', ?_, ?_⟩
    · exact tracks'.stands.step_stays_out tracks'.there out' action
    · rw [← calls]
      by_contra called
      obtain ⟨_, _, _, entry, inside, same⟩ := tracks'.stands.active called
      exact out' entry inside same
  exact (run_invariant_always settled kept ⟨tracks, out, rfl⟩ actions).2.2

/-- The time of every call made so far fits into an `int64_t`. -/
def Fits (address : TimerAddress) (when interval : Int64) (loop : TimerLoop Callback) : Prop :=
  ∀ index < (loop.callsOf address).length, dueAt when interval index < 2 ^ 63

theorem made_callsOf {before : List (TimerStep Callback)} {address : TimerAddress}
    (absent : (run step empty before).queue.objects address = none)
    (action : TimerStep Callback) :
    ((run step empty before).step action).callsOf address = [] := by
  have known : (run step (empty : TimerLoop Callback) before).Known :=
    run_invariant_always Known step_known empty_known before
  exact known.made_callsOf absent action

theorem made_tracks_run {before : List (TimerStep Callback)} {action : TimerStep Callback}
    {address : TimerAddress} {timer : Timer Callback}
    (absent : (run step empty before).queue.objects address = none)
    (made : ((run step empty before).step action).queue.objects address = some timer)
    (later : List (TimerStep Callback)) :
    (run step ((run step empty before).step action) later).Tracks address timer.expiration
      timer.interval timer.repeatCount := by
  have known : (run step (empty : TimerLoop Callback) before).Known :=
    run_invariant_always Known step_known empty_known before
  exact run_invariant_always (Tracks address timer.expiration timer.interval timer.repeatCount)
    step_tracks (known.made_tracks absent made) later

end TimerLoop

end Talko.Network
