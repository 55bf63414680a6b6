import Talko.Network.TimerQueueProperties

/-!
# What edits leave alone

An edit of the queue keeps every timer object but for its `canceled_`, brings in entries of new
timers only, and takes an entry out only where it removes that entry's timer. A timer that has
left `timers_` does not come back: its object stays, so `new` never returns its address again.
-/

set_option autoImplicit false

namespace Talko.Network

open Talko.Library

namespace TimerQueue

variable {Callback : Type}

/-- What a change of the queue by edits keeps. -/
structure EditFrame (queue after : TimerQueue Callback) : Prop where
  objects : ∀ address timer, queue.objects address = some timer →
    ∃ canceled, after.objects address = some { timer with canceled := canceled }
  entries : ∀ entry ∈ after.timers, entry ∈ queue.timers ∨ queue.objects entry.timer = none

theorem EditFrame.refl (queue : TimerQueue Callback) : EditFrame queue queue where
  objects _ timer found := ⟨timer.canceled, found⟩
  entries _ inside := .inl inside

theorem EditFrame.trans {queue middle after : TimerQueue Callback}
    (first : EditFrame queue middle) (second : EditFrame middle after) :
    EditFrame queue after where
  objects address timer found := by
    obtain ⟨canceled, found'⟩ := first.objects address timer found
    obtain ⟨canceled', found''⟩ := second.objects address _ found'
    exact ⟨canceled', found''⟩
  entries entry inside := by
    obtain inside' | free := second.entries entry inside
    · exact first.entries entry inside'
    · refine .inr (Option.eq_none_iff_forall_ne_some.mpr fun timer found => ?_)
      obtain ⟨canceled, found'⟩ := first.objects entry.timer timer found
      rw [free] at found'
      cases found'

/-- A timer without an entry gets none. -/
theorem EditFrame.stays_out {queue after : TimerQueue Callback} (frame : EditFrame queue after)
    {address : TimerAddress} (there : queue.objects address ≠ none)
    (out : ∀ entry ∈ queue.timers, entry.timer ≠ address) :
    ∀ entry ∈ after.timers, entry.timer ≠ address := by
  intro entry inside same
  obtain inside' | free := frame.entries entry inside
  · exact out entry inside' same
  · exact there (same ▸ free)

theorem newTimer_frame {queue : TimerQueue Callback} {address : TimerAddress}
    (free : queue.IsFree address) (callback : Callback) (when interval repeatCount : Int64) :
    EditFrame queue
      ((queue.newTimer address callback when interval repeatCount).addTimerInLoop address) where
  objects other timer found := by
    have different : other ≠ address := by
      rintro rfl
      rw [free.2] at found
      cases found
    refine ⟨timer.canceled, ?_⟩
    simp [addTimerInLoop, insert, newTimer, different, found]
  entries entry inside := by
    simp only [addTimerInLoop, insert, newTimer, Function.update_self, mem_orderedSetInsert]
      at inside
    obtain rfl | inside := inside
    · exact .inr free.2
    · exact .inl inside

theorem newTimer_keeps (queue : TimerQueue Callback) (address : TimerAddress)
    (callback : Callback) (when interval repeatCount : Int64) {entry : TimerEntry}
    (inside : entry ∈ queue.timers) :
    entry ∈ ((queue.newTimer address callback when interval repeatCount).addTimerInLoop
      address).timers := by
  simp only [addTimerInLoop, insert, newTimer, Function.update_self, mem_orderedSetInsert]
  exact .inr inside

theorem modifyTimer_cancel_frame (queue : TimerQueue Callback) (address : TimerAddress)
    (off : Bool) : EditFrame queue (queue.modifyTimer address (Timer.cancel off)) where
  objects other timer found := by
    by_cases same : other = address
    · subst same
      exact ⟨off, by simp [modifyTimer, found, Timer.cancel]⟩
    · exact ⟨timer.canceled, by rw [modifyTimer_objects_of_ne queue _ same]; exact found⟩
  entries _ inside := .inl inside

theorem edit_frame (queue : TimerQueue Callback) (change : TimerEdit Callback) :
    EditFrame queue (queue.edit change) := by
  cases change with
  | addTimer address callback when interval repeatCount =>
      simp only [edit]
      split
      · rename_i free
        exact newTimer_frame free callback when interval (-1)
      · exact .refl queue
  | addTimerMoved address callback when interval repeatCount =>
      simp only [edit]
      split
      · rename_i free
        exact newTimer_frame free callback when interval repeatCount
      · exact .refl queue
  | removeTimer timerId =>
      refine ⟨fun _ timer found => ⟨timer.canceled, found⟩, fun entry inside => .inl ?_⟩
      exact List.eraseP_subset inside
  | cancel timerId off =>
      simp only [edit, cancelTimerInLoop]
      split
      · exact modifyTimer_cancel_frame queue timerId.timer off
      · exact .refl queue

theorem edits_frame (queue : TimerQueue Callback) (changes : List (TimerEdit Callback)) :
    EditFrame queue (changes.foldl edit queue) := by
  induction changes generalizing queue with
  | nil => exact .refl queue
  | cons change rest ih => exact (edit_frame queue change).trans (ih (queue.edit change))

/-!
## Removals
-/

/-- The edit takes the entry of this timer out. -/
def removes (address : TimerAddress) : TimerEdit Callback → Bool
  | .removeTimer timerId => timerId.timer = address
  | _ => false

theorem edit_keeps {queue : TimerQueue Callback} {entry : TimerEntry}
    (inside : entry ∈ queue.timers) {change : TimerEdit Callback}
    (other : removes entry.timer change = false) : entry ∈ (queue.edit change).timers := by
  cases change with
  | addTimer address callback when interval repeatCount =>
      simp only [edit]
      split
      · exact newTimer_keeps queue address callback when interval (-1) inside
      · exact inside
  | addTimerMoved address callback when interval repeatCount =>
      simp only [edit]
      split
      · exact newTimer_keeps queue address callback when interval repeatCount inside
      · exact inside
  | removeTimer timerId =>
      let wanted : TimerEntry → Bool := fun entry => entry.timer = timerId.timer
      have different : ¬ wanted entry = true := by
        simpa [wanted, removes, eq_comm] using other
      exact (List.mem_eraseP_of_neg different).mpr inside
  | cancel timerId off =>
      simp only [edit, cancelTimerInLoop]
      split
      · exact inside
      · exact inside

theorem WellFormed.edit_takes {queue : TimerQueue Callback} (formed : queue.WellFormed)
    {address : TimerAddress} {change : TimerEdit Callback}
    (taken : removes address change = true) :
    ∀ entry ∈ (queue.edit change).timers, entry.timer ≠ address := by
  cases change with
  | removeTimer timerId =>
      have same : timerId.timer = address := by simpa [removes] using taken
      subst same
      intro entry inside equal
      have found : entry ∈ queue.timers := List.eraseP_subset inside
      let wanted : TimerEntry → Bool := fun entry => entry.timer = timerId.timer
      have holds : wanted entry = true := by simp [wanted, equal]
      obtain ⟨first, front, rest, fresh, hit, split, erased⟩ := List.exists_of_eraseP found holds
      -- the entry that is erased is the only one of its timer
      have unique := formed.unique
      rw [split, List.map_append, List.map_cons, List.nodup_append, List.nodup_cons] at unique
      have hitTimer : first.timer = timerId.timer := by simpa [wanted] using hit
      have left : entry ∈ queue.timers.eraseP wanted := inside
      rw [erased] at left
      obtain before | behind := List.mem_append.mp left
      · exact fresh entry before holds
      · exact unique.2.1.1 (List.mem_map.mpr ⟨entry, behind, by rw [equal, hitTimer]⟩)
  | addTimer address callback when interval repeatCount => simp [removes] at taken
  | addTimerMoved address callback when interval repeatCount => simp [removes] at taken
  | cancel timerId off => simp [removes] at taken

/-- An entry survives a list of edits exactly when none of them removes its timer. -/
theorem WellFormed.mem_edits_iff {queue : TimerQueue Callback} (formed : queue.WellFormed)
    {entry : TimerEntry} (inside : entry ∈ queue.timers)
    (changes : List (TimerEdit Callback)) :
    entry ∈ (changes.foldl TimerQueue.edit queue).timers ↔
      ∀ change ∈ changes, removes entry.timer change = false := by
  induction changes generalizing queue with
  | nil => simp [inside]
  | cons change rest ih =>
      rw [List.foldl_cons, List.forall_mem_cons]
      cases taken : removes entry.timer change with
      | false =>
          rw [ih (formed.edit change) (edit_keeps inside taken)]
          exact (and_iff_right rfl).symm
      | true =>
          refine iff_of_false (fun still => ?_) (by simp)
          have there : (queue.edit change).objects entry.timer ≠ none := by
            obtain ⟨timer, found⟩ := Option.isSome_iff_exists.mp (formed.present entry inside)
            obtain ⟨canceled, found'⟩ := (edit_frame queue change).objects entry.timer timer found
            simp [found']
          exact (edits_frame (queue.edit change) rest).stays_out there (formed.edit_takes taken)
            entry still rfl

end TimerQueue

end Talko.Network
