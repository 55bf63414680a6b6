import Mathlib.Data.List.TakeWhile
import Talko.Network.TimerLoopCounts

/-!
# Passes that call a timer

A pass at the latest clock value calls every timer in `timers_` that is not cancelled. A timer
stays in `timers_` while its count lasts, so that such passes, each behind a `cancel` that clears
the timer's flag, call it as often as its count allows.
-/

set_option autoImplicit false

namespace Talko.Network

open Talko.Library

namespace TimerLoop

variable {Callback : Type}

/-!
## A pass at the latest clock value
-/

/-- A step that removes no timer: it makes no edit, or cancels or resumes one. -/
def Quiet : TimerStep Callback → Prop
  | .edit (.cancel _ _) => True
  | .edit _ => False
  | .doTimer _ => True
  | .iterate edits => edits = []

/-- Every timer is due at the largest clock value. -/
theorem isDue_maxValue {queue : TimerQueue Callback} {entries : List TimerEntry}
    (present : ∀ entry ∈ entries, (queue.objects entry.timer).isSome) :
    ∀ entry ∈ entries, queue.isDue Int64.maxValue entry = true := by
  intro entry inside
  obtain ⟨timer, found⟩ := Option.isSome_iff_exists.mp (present entry inside)
  simp only [TimerQueue.isDue, found, decide_eq_true_eq]
  exact Int64.le_maxValue timer.expiration

/-- The iterations of a pass whose callbacks leave the queue alone. -/
def quietPass (iterations : Nat) : List (TimerStep Callback) :=
  (List.replicate iterations []).map .iterate

theorem quietPass_quiet (iterations : Nat) :
    ∀ action ∈ (quietPass iterations : List (TimerStep Callback)), Quiet action := by
  intro action member
  obtain ⟨edits, edited, rfl⟩ := List.mem_map.mp member
  exact List.eq_of_mem_replicate edited

def latePass (iterations : Nat) : List (TimerStep Callback) :=
  .doTimer Int64.maxValue :: quietPass iterations

theorem latePass_quiet (iterations : Nat) :
    ∀ action ∈ (latePass iterations : List (TimerStep Callback)), Quiet action :=
  List.forall_mem_cons.mpr ⟨trivial, quietPass_quiet iterations⟩

/-- A timer in `timers_` that is not cancelled is called once more by a pass at the latest clock
value. -/
theorem Stands.fires {loop : TimerLoop Callback} (stands : loop.Stands)
    (outside : loop.place = .outside) {entry : TimerEntry} (inside : entry ∈ loop.queue.timers)
    {timer : Timer Callback} (found : loop.queue.objects entry.timer = some timer)
    (active : timer.canceled = false) :
    ∃ iterations, (run step loop (latePass iterations)).place = .outside ∧
      (loop.callsOf entry.timer).length <
        ((run step loop (latePass iterations)).callsOf entry.timer).length := by
  let now : Int64 := Int64.maxValue
  let script : List (List (TimerEdit Callback)) := List.replicate (loop.queue.timers.length + 1) []
  obtain ⟨after, ended⟩ := TimerQueue.doTimer_quiet now stands.formed
    (Nat.lt_succ_self loop.queue.timers.length)
  have called : (entry.timer, timer.callback) ∈ loop.queue.walkCalls now loop.queue.timers := by
    refine TimerQueue.mem_walkCalls.mpr ⟨entry, ?_, rfl, timer, found, rfl, active⟩
    rw [List.takeWhile_eq_self_iff.mpr (isDue_maxValue stands.formed.present)]
    exact inside
  have begun : loop.step (.doTimer now) = { loop with
      place := .walking now loop.queue.timers.head?, passes := loop.passes + 1 } := by
    simp only [step, outside, if_true]
  have follows := run_iterate_follows now (loop.step (.doTimer now)) loop.queue.timers.head?
    (by rw [begun]) [] script
  have pass : TimerQueue.doTimerLoop now (loop.step (.doTimer now)).queue
      loop.queue.timers.head? [] script =
        .done after (loop.queue.walkCalls now loop.queue.timers) := by
    rw [begun]
    exact ended
  rw [pass] at follows
  obtain ⟨rest, split, final⟩ := follows
  rw [List.nil_append] at split
  subst split
  refine ⟨loop.queue.timers.length + 1, ?_⟩
  rw [latePass, run_cons, quietPass, final]
  refine ⟨rfl, ?_⟩
  have newCall : (⟨entry.timer, timer.callback, (loop.step (.doTimer now)).passes, now⟩ :
      Invocation Callback) ∈ ((loop.step (.doTimer now)).invocations now
        (loop.queue.walkCalls now loop.queue.timers)).filter (·.timer = entry.timer) := by
    refine List.mem_filter.mpr ⟨List.mem_map.mpr ⟨_, called, rfl⟩, by simp⟩
  have log : (loop.step (.doTimer now)).log = loop.log := by rw [begun]
  simp only [callsOf, List.filter_append, List.length_append, log]
  have positive := List.length_pos_of_mem newCall
  omega

/-- Iterations whose callbacks leave the queue alone bring a pass to its end. -/
theorem Stands.pass_ends {loop : TimerLoop Callback} (stands : loop.Stands)
    (whole : loop.place ≠ .broken) :
    ∃ iterations, (run step loop (quietPass iterations)).place = .outside := by
  cases place : loop.place with
  | outside => exact ⟨0, place⟩
  | broken => exact absurd place whole
  | walking now iter =>
      obtain ⟨front, entries, split, rfl⟩ :
          ∃ front entries, loop.queue.timers = front ++ entries ∧ iter = entries.head? := by
        cases iter with
        | none => exact ⟨loop.queue.timers, [], (List.append_nil _).symm, rfl⟩
        | some entry =>
            obtain ⟨front, behind, split⟩ := List.append_of_mem (stands.inside now entry place)
            exact ⟨front, entry :: behind, split, rfl⟩
      obtain ⟨after, ended⟩ := TimerQueue.doTimerLoop_quiet now stands.formed split
        (Nat.lt_succ_self entries.length) []
      have follows := run_iterate_follows now loop entries.head? place []
        (List.replicate (entries.length + 1) [])
      rw [ended] at follows
      obtain ⟨_, -, final⟩ := follows
      exact ⟨entries.length + 1, congrArg TimerLoop.place final⟩

/-!
## A timer whose count lasts
-/

theorem retire_keeps {queue : TimerQueue Callback} {entry other : TimerEntry}
    (inside : other ∈ queue.timers)
    (going : other = entry → queue.repeatCount entry.timer ≠ some 0) :
    other ∈ (queue.retire entry).timers := by
  unfold TimerQueue.retire
  split
  · rename_i zero
    have different : other ≠ entry := fun same => going same zero
    exact (List.mem_erase_of_ne different).mpr inside
  · exact inside

/-- The timer has been called as often as its count says. -/
def Spent (address : TimerAddress) (count : Int64) (loop : TimerLoop Callback) : Prop :=
  count ≠ -1 ∧ count.toInt ≤ (loop.callsOf address).length

/-- The timer is in `timers_` as long as its count lasts. -/
structure Lasts (address : TimerAddress) (when interval count : Int64)
    (loop : TimerLoop Callback) : Prop where
  tracks : loop.Tracks address when interval count
  lists : loop.Spent address count ∨ ∃ entry ∈ loop.queue.timers, entry.timer = address

section

variable {address : TimerAddress} {when interval count : Int64}

/-- The count that is left is not the zero at which the timer is erased. -/
theorem Progress.repeatCount_ne_zero {calls : Nat} {timer : Timer Callback}
    (progress : Progress when interval count calls timer)
    (counts : count = -1 ∨ 1 ≤ count.toInt) : timer.repeatCount ≠ 0 := by
  intro zero
  obtain endless | positive := counts
  · cases zero.symm.trans (progress.endless endless)
  · obtain ⟨left, within⟩ := progress.counts positive
    have none : timer.repeatCount.toInt = 0 := congrArg Int64.toInt zero
    omega

theorem afterCallback_repeatCount (timer : Timer Callback) :
    timer.afterCallback.repeatCount =
      if timer.repeatCount = -1 then -1 else timer.repeatCount - 1 := by
  unfold Timer.afterCallback
  by_cases endless : timer.repeatCount = -1
  · simp [endless]
  · simp only [ne_eq, endless, not_false_eq_true, if_true, if_false]
    split <;> rfl

/-- The call that leaves nothing of the count is the last one. -/
theorem Progress.last_call {calls : Nat} {timer : Timer Callback}
    (progress : Progress when interval count calls timer)
    (counts : count = -1 ∨ 1 ≤ count.toInt) (zero : timer.afterCallback.repeatCount = 0) :
    count ≠ -1 ∧ count.toInt = calls + 1 := by
  rw [afterCallback_repeatCount] at zero
  by_cases forever : timer.repeatCount = -1
  · rw [if_pos forever] at zero
    cases zero
  · rw [if_neg forever] at zero
    have counted : count ≠ -1 := fun endless => forever (progress.endless endless)
    obtain ⟨left, within⟩ := progress.counts (counts.resolve_left counted)
    have less : (timer.repeatCount - 1).toInt = timer.repeatCount.toInt - 1 :=
      toInt_sub_one (by omega)
    have none : (timer.repeatCount - 1).toInt = 0 := congrArg Int64.toInt zero
    exact ⟨counted, by omega⟩

/-- The timer at `iter` is called or not, and stays while its count lasts. -/
theorem Lasts.own {loop : TimerLoop Callback} {entry : TimerEntry}
    (lasts : loop.Lasts entry.timer when interval count)
    (counts : count = -1 ∨ 1 ≤ count.toInt) (now : Int64) (inside : entry ∈ loop.queue.timers)
    {timer : Timer Callback} (found : loop.queue.objects entry.timer = some timer) :
    (loop.advance now entry (loop.queue.runTimer entry.timer timer [])).Spent entry.timer count ∨
      entry ∈ (loop.advance now entry (loop.queue.runTimer entry.timer timer [])).queue.timers := by
  obtain ⟨held, found', progress⟩ := lasts.tracks.listed entry inside rfl
  cases found.symm.trans found'
  obtain ⟨-, timers, -⟩ := TimerQueue.runTimer_quiet loop.queue entry found
  have still : entry ∈ (loop.queue.runTimer entry.timer timer []).1.timers := timers ▸ inside
  have ran := lasts.tracks.stands.formed.runTimer entry.timer timer []
  have advanced := loop.advance_advanced now entry ran
  cases silent : timer.canceled with
  | true =>
      right
      rw [advance_of_mem loop now still]
      refine retire_keeps still fun _ zero => ?_
      simp only [TimerQueue.runTimer, silent, if_true, TimerQueue.repeatCount, found,
        Option.map_some, Option.some.injEq] at zero
      exact progress.repeatCount_ne_zero counts zero
  | false =>
      have size : ((loop.advance now entry (loop.queue.runTimer entry.timer timer [])).callsOf
          entry.timer).length = (loop.callsOf entry.timer).length + 1 := by
        rw [advanced.callsOf_self silent, List.length_append, List.length_singleton]
      by_cases zero : timer.afterCallback.repeatCount = 0
      · obtain ⟨counted, last⟩ := progress.last_call counts zero
        refine .inl ⟨counted, ?_⟩
        rw [size]
        push_cast
        omega
      · right
        rw [advance_of_mem loop now still]
        refine retire_keeps still fun _ zero' => zero ?_
        simpa [TimerQueue.runTimer, silent, TimerQueue.repeatCount, TimerQueue.modifyTimer,
          found] using zero'

theorem Lasts.advance {loop : TimerLoop Callback}
    (lasts : loop.Lasts address when interval count) (counts : count = -1 ∨ 1 ≤ count.toInt)
    (now : Int64) {entry : TimerEntry} {timer : Timer Callback}
    (inside : entry ∈ loop.queue.timers)
    (found : loop.queue.objects entry.timer = some timer) :
    (loop.advance now entry (loop.queue.runTimer entry.timer timer [])).Spent address count ∨
      ∃ other ∈ (loop.advance now entry (loop.queue.runTimer entry.timer timer [])).queue.timers,
        other.timer = address := by
  obtain ⟨-, timers, -⟩ := TimerQueue.runTimer_quiet loop.queue entry found
  have still : entry ∈ (loop.queue.runTimer entry.timer timer []).1.timers := timers ▸ inside
  obtain spent | ⟨listed, listedIn, same⟩ := lasts.lists
  · have ran := lasts.tracks.stands.formed.runTimer entry.timer timer []
    have advanced := loop.advance_advanced now entry ran
    refine .inl ⟨spent.1, spent.2.trans (Int.ofNat_le.mpr ?_)⟩
    simp only [callsOf, advanced.log, List.filter_append, List.length_append]
    exact Nat.le_add_right _ _
  · by_cases here : listed = entry
    · subst here
      subst same
      obtain spent | stays := lasts.own counts now inside found
      · exact .inl spent
      · exact .inr ⟨listed, stays, rfl⟩
    · right
      refine ⟨listed, ?_, same⟩
      rw [advance_of_mem loop now still]
      exact retire_keeps (timers ▸ listedIn) fun equal => absurd equal here

theorem step_lasts (counts : count = -1 ∨ 1 ≤ count.toInt) (loop : TimerLoop Callback)
    (action : TimerStep Callback) (lasts : loop.Lasts address when interval count)
    (quiet : Quiet action) : (loop.step action).Lasts address when interval count := by
  refine ⟨step_tracks loop action lasts.tracks, ?_⟩
  have lists := lasts.lists
  cases action with
  | edit change =>
      cases change with
      | cancel timerId off =>
          have timers : (loop.queue.cancelTimerInLoop timerId off).timers = loop.queue.timers := by
            unfold TimerQueue.cancelTimerInLoop
            split <;> rfl
          simp only [step, TimerQueue.edit]
          split
          · rw [timers]
            exact lists
          · exact lists
      | addTimer => exact quiet.elim
      | addTimerMoved => exact quiet.elim
      | removeTimer => exact quiet.elim
  | doTimer now =>
      simp only [step]
      split
      · exact lists
      · exact lists
  | iterate edits =>
      obtain rfl : edits = [] := quiet
      simp only [step, iterate]
      split
      · exact lists
      · exact lists
      · exact lists
      · rename_i now entry place
        split
        · exact lists
        · rename_i timer found
          split
          · exact lasts.advance counts now (lasts.tracks.stands.inside now entry place) found
          · exact lists

/-- Passes at the latest clock value call a timer as often as its count allows. -/
theorem Lasts.exists_calls {loop : TimerLoop Callback}
    (lasts : loop.Lasts address when interval count) (counts : count = -1 ∨ 1 ≤ count.toInt)
    (whole : loop.place ≠ .broken) (calls : Nat)
    (within : count = -1 ∨ (calls : Int) ≤ count.toInt) :
    ∃ later : List (TimerStep Callback), (∀ action ∈ later, Quiet action) ∧
      (run step loop later).place = .outside ∧
      calls ≤ ((run step loop later).callsOf address).length := by
  induction calls with
  | zero =>
      obtain ⟨iterations, ended⟩ := lasts.tracks.stands.pass_ends whole
      exact ⟨quietPass iterations, quietPass_quiet iterations, ended, Nat.zero_le _⟩
  | succ calls ih =>
      obtain ⟨later, quiet, outside, reached⟩ := ih (within.imp_right (by omega))
      by_cases enough : calls + 1 ≤ ((run step loop later).callsOf address).length
      · exact ⟨later, quiet, outside, enough⟩
      · have lasts' : (run step loop later).Lasts address when interval count :=
          run_invariant (Lasts address when interval count) (step_lasts counts) lasts
            (guarded_of_mem quiet loop)
        have unspent : ¬ (run step loop later).Spent address count := by
          rintro ⟨counted, spent⟩
          have bound := within.resolve_left counted
          omega
        obtain ⟨entry, inside, rfl⟩ := lasts'.lists.resolve_left unspent
        obtain ⟨held, found, -⟩ := lasts'.tracks.listed entry inside rfl
        -- the timer may have been cancelled meanwhile
        let resume : TimerStep Callback := .edit (.cancel ⟨entry.timer, 0⟩ false)
        have resumed : (run step loop later).step resume =
            { run step loop later with
              queue := (run step loop later).queue.modifyTimer entry.timer (Timer.cancel false) } := by
          have listed : (run step loop later).queue.timers.any (·.timer = entry.timer) = true :=
            List.any_eq_true.mpr ⟨entry, inside, decide_eq_true rfl⟩
          simp only [resume, step, outside, if_true, TimerQueue.edit, TimerQueue.cancelTimerInLoop,
            listed]
        have stands := step_stands _ resume lasts'.tracks.stands
        have active : ((run step loop later).step resume).queue.objects entry.timer =
            some (Timer.cancel false held) := by
          rw [resumed]
          simp [TimerQueue.modifyTimer, found]
        have still : entry ∈ ((run step loop later).step resume).queue.timers := by
          rw [resumed]
          exact inside
        have rests : ((run step loop later).step resume).place = .outside := by
          rw [resumed]
          exact outside
        have same : ((run step loop later).step resume).callsOf entry.timer =
            (run step loop later).callsOf entry.timer := by rw [resumed]; rfl
        obtain ⟨iterations, ended, more⟩ := stands.fires rests still active rfl
        refine ⟨later ++ resume :: latePass iterations, ?_, ?_, ?_⟩
        · refine List.forall_mem_append.mpr ⟨quiet, List.forall_mem_cons.mpr ⟨trivial, ?_⟩⟩
          exact latePass_quiet iterations
        · rw [run_append, run_cons]
          exact ended
        · rw [run_append, run_cons]
          rw [same] at more
          omega

end

end TimerLoop

end Talko.Network
